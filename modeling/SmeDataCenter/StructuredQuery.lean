import SmeDataCenter.CanonicalJson
import SmeDataCenter.StructuredRegistry
import SmeDataCenter.TextPatterns
import Mathlib.Data.Rat.Defs
import Mathlib.Algebra.Order.Ring.Rat

/-!
# Structured queries

What a client sends to query a dataset by rows, how it is normalized, and the validators that a
query passes before it is compiled. Every refusal has the code, the text and the details of the
source.
-/

namespace SmeDataCenter
namespace StructuredQuery

/-! ### Bodies -/

/-- A number that JSON can spell: one too large for the language is infinite. -/
inductive ScriptNumber where
  | finite (q : ℚ)
  | infinite (negative : Bool)

/-- A body as the client sends it. -/
inductive QueryJson where
  | null
  | bool (b : Bool)
  | num (n : ScriptNumber)
  | str (s : String)
  | arr (items : List QueryJson)
  | obj (fields : List (String × QueryJson))

/-- `object[key]`, which may be undefined. -/
def property (object : List (String × QueryJson)) (key : String) : Option QueryJson :=
  object.lookup key

/-- `value ?? fallback` on a property. -/
def nullish : Option QueryJson → Option QueryJson
  | some .null => none
  | value => value

inductive Phase3ErrorCode where
  | invalidQuery
  | invalidField
  | unsupportedOperator
  | unsupportedCapability
  | typeMismatch
  | invalidAggregation
  | limitExceeded
  | invalidCursor
  | cursorExpired
  | ledgerDetailDisabled
  | datasetForbidden
  | datasetRequiresPartitionExtract
  deriving DecidableEq

/-- What a query throws: a validation error, or one of another class. -/
inductive QueryError where
  | validation (code : Phase3ErrorCode) (message : String) (details : List (String × QueryJson))
  | internal (message : String)

def refuse {α : Type} (code : Phase3ErrorCode) (message : String)
    (details : List (String × QueryJson)) : Except QueryError α :=
  .error (.validation code message details)

/-- Refuse unless a condition holds. -/
def require (condition : Bool) (code : Phase3ErrorCode) (message : String)
    (details : List (String × QueryJson)) : Except QueryError Unit :=
  if condition then .ok () else refuse code message details

def natJson (n : ℕ) : QueryJson := .num (.finite n)

/-- The length of a string in code units. -/
def scriptLength (s : String) : ℕ := (s.toList.flatMap codeUnits).length

/-- `value.trim()` -/
def trimString (s : String) : String := String.ofList (Text.trim s.toList)

/-! ### Limits -/

def defaultLimit : ℕ := 50
def maxRows : ℕ := 200
def maxAggregateGroups : ℕ := 200
def maxBooleanDepth : ℕ := 3
def maxConditions : ℕ := 20
def maxInValues : ℕ := 100
def maxSortFields : ℕ := 2
def maxGroupByFields : ℕ := 4
def maxAggregates : ℕ := 12
def maxSelectedFields : ℕ := 50
def cursorTtlSeconds : ℕ := 900
def cursorChars : ℕ := 4096
def structuredQueryStringScalarChars : ℕ := 32767

/-! ### Normalized queries -/

inductive StructuredQueryMode where
  | detail
  | aggregate
  deriving DecidableEq

inductive FilterNode where
  | field (field op : String) (value : QueryJson)
  | and (nodes : List FilterNode)
  | or (nodes : List FilterNode)
  | not (node : FilterNode)

inductive SortDirection where
  | asc
  | desc
  deriving DecidableEq

structure SortSpec where
  field : String
  direction : SortDirection

inductive FieldAggregateOp where
  | countDistinct
  | sum
  | avg
  | min
  | max
  deriving DecidableEq

/-- An aggregate, with the alias of `as`. -/
inductive AggregateSpec where
  | count (field aliasName : Option String)
  | onField (op : FieldAggregateOp) (field : String) (aliasName : Option String)
  | weightedAvg (field weightField : String) (aliasName : Option String)

structure PageSpec where
  limit : ℕ
  cursor : Option String

structure NormalizedQuery where
  dataset : StructuredDatasetName
  select : List String
  filter : Option FilterNode
  sort : List SortSpec
  page : PageSpec
  groupBy : List String
  aggregates : List AggregateSpec

def queryMode (groupBy : List String) (aggregates : List AggregateSpec) : StructuredQueryMode :=
  if 0 < aggregates.length || 0 < groupBy.length then .aggregate else .detail

def NormalizedQuery.mode (query : NormalizedQuery) : StructuredQueryMode :=
  queryMode query.groupBy query.aggregates

/-! ### Normalization -/

def rejectUnknownKeys (object : List (String × QueryJson)) (allowedKeys : List String) :
    Except QueryError Unit :=
  match object.find? fun field => !allowedKeys.contains field.1 with
  | some field =>
    refuse .invalidQuery "Query contains unsupported keys." [("key", .str field.1)]
  | none => .ok ()

def requirePlainObject (input : Option QueryJson) (message : String) :
    Except QueryError (List (String × QueryJson)) :=
  match input with
  | some (.obj fields) => .ok fields
  | _ => refuse .invalidQuery message []

/-- The texts of an array, when all its items are texts. -/
def stringItems : List QueryJson → Option (List String)
  | [] => some []
  | .str s :: items => (stringItems items).map (s :: ·)
  | _ :: _ => none

/-- An array that is not required. -/
def normalizeStringArray (input : Option QueryJson) (name : String) (max : ℕ) :
    Except QueryError (List String) :=
  match input with
  | none => .ok []
  | some (.arr items) =>
    match stringItems items with
    | none => refuse .invalidQuery (name ++ " must be a string array.") []
    | some values =>
      if max < values.length then
        refuse .limitExceeded (name ++ " exceeds the allowed limit.") [("limit", natJson max)]
      else .ok (distinct ((values.map trimString).filter (· ≠ "")))
  | some _ => refuse .invalidQuery (name ++ " must be a string array.") []

def normalizeSortItem (item : QueryJson) : Except QueryError SortSpec := do
  let object ← requirePlainObject (some item) "sort item must be an object."
  rejectUnknownKeys object ["field", "direction"]
  match property object "field", nullish (property object "direction") with
  | some (.str field), none => return ⟨field, .asc⟩
  | some (.str field), some (.str "asc") => return ⟨field, .asc⟩
  | some (.str field), some (.str "desc") => return ⟨field, .desc⟩
  | _, _ => refuse .invalidQuery "sort item is invalid." []

def normalizeSort (input : Option QueryJson) : Except QueryError (List SortSpec) :=
  match input with
  | none => .ok []
  | some (.arr items) =>
    if maxSortFields < items.length then
      refuse .limitExceeded "sort exceeds the allowed limit." []
    else items.mapM normalizeSortItem
  | some _ => refuse .invalidQuery "sort must be an array." []

/-- A limit is an integer from one up to the maximum. -/
def pageLimit (maxLimit : ℕ) : QueryJson → Option ℕ
  | .num (.finite q) =>
    if q.den = 1 ∧ 1 ≤ q.num ∧ q.num ≤ maxLimit then some q.num.toNat else none
  | _ => none

def normalizePage (input : Option QueryJson) (mode : StructuredQueryMode) :
    Except QueryError PageSpec :=
  match input with
  | none => .ok { limit := defaultLimit, cursor := none }
  | some _ => do
    let object ← requirePlainObject input "page must be an object."
    rejectUnknownKeys object ["limit", "cursor"]
    let maxLimit := if mode = .aggregate then maxAggregateGroups else maxRows
    match pageLimit maxLimit ((nullish (property object "limit")).getD (natJson defaultLimit)) with
    | none =>
      refuse .limitExceeded "Page limit exceeds the allowed limit." [("limit", natJson maxLimit)]
    | some limit =>
      match nullish (property object "cursor") with
      | none => return { limit, cursor := none }
      | some (.str cursor) => return { limit, cursor := some cursor }
      | some _ => refuse .invalidCursor "Cursor is invalid." []

/-- `/^[a-z][a-z0-9_]{0,63}$/` -/
def isSafeAlias (value : String) : Bool :=
  match value.toList with
  | [] => false
  | c :: cs =>
    c.isLower && cs.length ≤ 63 && cs.all fun c => c.isLower || c.isDigit || c = '_'

def fieldAggregateOp : String → Option FieldAggregateOp
  | "countDistinct" => some .countDistinct
  | "sum" => some .sum
  | "avg" => some .avg
  | "min" => some .min
  | "max" => some .max
  | _ => none

/-- The alias of an aggregate: undefined, or a safe one. -/
def aggregateAs (aliasName : Option QueryJson) : Except QueryError (Option String) :=
  match aliasName with
  | none => .ok none
  | some (.str aliasName) =>
    if isSafeAlias aliasName then .ok (some aliasName)
    else refuse .invalidAggregation "Aggregate alias is invalid." []
  | some _ => refuse .invalidAggregation "Aggregate alias is invalid." []

def normalizeCount (object : List (String × QueryJson)) (aliasName : Option String) :
    Except QueryError AggregateSpec := do
  rejectUnknownKeys object ["op", "field", "as"]
  match property object "field" with
  | none => return .count none aliasName
  | some (.str field) =>
    if field = "" then refuse .invalidAggregation "Aggregate field is invalid." []
    else return .count (some field) aliasName
  | some _ => refuse .invalidAggregation "Aggregate field is invalid." []

def normalizeWeightedAvg (object : List (String × QueryJson)) (aliasName : Option String) :
    Except QueryError AggregateSpec := do
  rejectUnknownKeys object ["op", "field", "weightField", "as"]
  match property object "field", property object "weightField" with
  | some (.str field), some (.str weightField) => return .weightedAvg field weightField aliasName
  | _, _ => refuse .invalidAggregation "Weighted aggregate fields are required." []

def normalizeFieldAggregate (op : FieldAggregateOp) (object : List (String × QueryJson))
    (aliasName : Option String) : Except QueryError AggregateSpec := do
  rejectUnknownKeys object ["op", "field", "as"]
  match property object "field" with
  | some (.str field) => return .onField op field aliasName
  | _ => refuse .invalidAggregation "Aggregate field is required." []

def normalizeAggregate (item : QueryJson) : Except QueryError AggregateSpec := do
  let object ← requirePlainObject (some item) "aggregate item must be an object."
  match property object "op" with
  | some (.str op) =>
    if op = "count" then normalizeCount object (← aggregateAs (property object "as"))
    else if op = "weightedAvg" then
      normalizeWeightedAvg object (← aggregateAs (property object "as"))
    else match fieldAggregateOp op with
      | some op => normalizeFieldAggregate op object (← aggregateAs (property object "as"))
      | none => refuse .invalidAggregation "Aggregate operator is invalid." []
  | _ => refuse .invalidAggregation "Aggregate operator is invalid." []

def normalizeAggregates (input : Option QueryJson) : Except QueryError (List AggregateSpec) :=
  match input with
  | none => .ok []
  | some (.arr items) =>
    if maxAggregates < items.length then
      refuse .limitExceeded "aggregates exceeds the allowed limit." []
    else items.mapM normalizeAggregate
  | some _ => refuse .invalidAggregation "aggregates must be an array." []

/-- A condition on a field. -/
def normalizeCondition (object : List (String × QueryJson)) : Except QueryError FilterNode :=
  match property object "field", property object "op", property object "value" with
  | some field, some op, some value =>
    if object.any fun entry => !(["field", "op", "value"].contains entry.1) then
      refuse .invalidQuery "Field condition has unsupported keys." []
    else match field, op with
      | .str field, .str op => .ok (.field field op value)
      | _, _ => refuse .invalidQuery "Field condition is invalid." []
  | _, _, _ => refuse .invalidQuery "Field condition is invalid." []

/-- The nodes of a list, with the number of their conditions. -/
def countNodes (children : List (FilterNode × ℕ)) : List FilterNode × ℕ :=
  (children.map (·.1), children.foldl (fun count child => count + child.2) 0)

/-- `levels` more levels may be opened: at depth `d` these are `maxBooleanDepth + 1 - d`. -/
def normalizeFilter : ℕ → QueryJson → Except QueryError (FilterNode × ℕ)
  | 0, _ => refuse .limitExceeded "Filter boolean depth exceeds the allowed limit." []
  | levels + 1, input => do
    let object ← requirePlainObject (some input) "filter must be an object."
    let keys := object.map (·.1)
    if keys.contains "and" || keys.contains "or" then
      match object with
      | [(key, .arr (value :: values))] =>
        let children ← (value :: values).mapM (normalizeFilter levels)
        let (nodes, count) := countNodes children
        if maxConditions < count then
          refuse .limitExceeded "Filter condition count exceeds the allowed limit." []
        else return (if key = "and" then .and nodes else .or nodes, count)
      | [_] => refuse .invalidQuery "Boolean filter is empty." []
      | _ => refuse .invalidQuery "Boolean filter is invalid." []
    else if keys.contains "not" then
      match object with
      | [(_, value)] =>
        let child ← normalizeFilter levels value
        return (.not child.1, child.2)
      | _ => refuse .invalidQuery "Not filter is invalid." []
    else do
      let node ← normalizeCondition object
      return (node, 1)

/-- `normalizeQuery`; `override` is the registry of a directory. -/
def normalizeQuery (input : QueryJson) (override : Option StructuredDatasetRegistry) :
    Except QueryError NormalizedQuery := do
  let object ← requirePlainObject (some input) "Query body must be an object."
  rejectUnknownKeys object
    ["dataset", "select", "filter", "sort", "page", "groupBy", "aggregates"]
  let known := match property object "dataset" with
    | some (.str name) => structuredDatasets.lookup name
    | _ => none
  match known with
  | none =>
    refuse .invalidQuery "Dataset is invalid."
      ((property object "dataset").toList.map fun dataset => ("dataset", dataset))
  | some dataset =>
    let registry := override.getD (getStructuredRegistry dataset)
    if registry.accessMode = .partitionExtract then
      refuse .datasetRequiresPartitionExtract
        "business, dishes, in_store_orders, and takeaway_orders are available through partition extracts, not row queries."
        [("dataset", .str dataset.text)]
    else do
      let select ← normalizeStringArray (property object "select") "select" maxSelectedFields
      let sort ← normalizeSort (property object "sort")
      let groupBy ← normalizeStringArray (property object "groupBy") "groupBy" maxGroupByFields
      let aggregates ← normalizeAggregates (property object "aggregates")
      let mode := queryMode groupBy aggregates
      let effectiveSelect :=
        if 0 < select.length then select
        else if mode = .detail then
          (registry.fields.filter (·.defaultReturn)).map (·.canonicalName)
        else []
      let page ← normalizePage (property object "page") mode
      let filter ← match property object "filter" with
        | none => pure none
        | some filter => do
          let node ← normalizeFilter maxBooleanDepth filter
          pure (some node.1)
      return { dataset, select := effectiveSelect, filter, sort, page, groupBy, aggregates }

/-! ### Validation -/

/-- The fields of a registry under their names; a later one replaces an earlier one. -/
abbrev Fields := AList fun _ : String => StructuredFieldRegistryEntry

def fieldsOf (registry : StructuredDatasetRegistry) : Fields :=
  (registry.fields.reverse.map fun field =>
    (⟨field.canonicalName, field⟩ : Sigma fun _ : String =>
      StructuredFieldRegistryEntry)).toAList

def requireField (fields : Fields) (fieldName : String) :
    Except QueryError StructuredFieldRegistryEntry :=
  match fields.lookup fieldName with
  | some field => .ok field
  | none =>
    refuse .invalidField "Field is not in the dataset registry." [("field", .str fieldName)]

def requireStorage (field : StructuredFieldRegistryEntry) :
    Except QueryError StructuredFieldStorageMapping :=
  match field.storage with
  | some storage => .ok storage
  | none => .error (.internal ("Field " ++ field.canonicalName ++ " does not have row storage."))

def requireJsonPath (field : StructuredFieldRegistryEntry) : Except QueryError String := do
  let storage ← requireStorage field
  match storage.jsonPath.filter (· ≠ "") with
  | some jsonPath => return jsonPath
  | none =>
    refuse .unsupportedCapability "Field does not use JSON payload storage."
      [("field", .str field.canonicalName)]

def validateGroupField (fields : Fields) (fieldName : String) : Except QueryError Unit := do
  let field ← requireField fields fieldName
  require field.capabilities.group .unsupportedCapability "Field does not support grouping."
    [("field", .str fieldName)]

def validateSelectedFields (query : NormalizedQuery) (fields : Fields)
    (mode : StructuredQueryMode) : Except QueryError Unit := do
  require (!(mode = .aggregate && 0 < query.select.length)) .invalidQuery
    "select cannot be used with aggregate queries." []
  query.select.forM fun fieldName => do
    let _ ← requireField fields fieldName
  query.groupBy.forM (validateGroupField fields)

def FieldAggregateOp.text : FieldAggregateOp → String
  | .countDistinct => "countDistinct"
  | .sum => "sum"
  | .avg => "avg"
  | .min => "min"
  | .max => "max"

def aggregateAlias : AggregateSpec → String
  | .count _ (some aliasName) | .onField _ _ (some aliasName) | .weightedAvg _ _ (some aliasName) => aliasName
  | .count (some field) none => "count_" ++ field
  | .count none none => "count"
  | .onField op field none => if field = "" then "count" else op.text ++ "_" ++ field
  | .weightedAvg field _ none => if field = "" then "count" else "weightedAvg_" ++ field

def validateWeightedAggregateField (field : StructuredFieldRegistryEntry) (fieldName : String) :
    Except QueryError Unit := do
  let storage ← requireStorage field
  require (storage.column = .payload && field.capabilities.aggregate && field.type.isNumeric)
    .unsupportedCapability "Field does not support weighted aggregation."
    [("field", .str fieldName)]

def validateAggregate (fields : Fields) : AggregateSpec → Except QueryError Unit
  | .count none _ => .ok ()
  | .count (some fieldName) _ => do
    let field ← requireField fields fieldName
    require (field.capabilities.aggregate || field.capabilities.group) .unsupportedCapability
      "Field does not support counting." [("field", .str fieldName)]
  | .onField .countDistinct fieldName _ => do
    let field ← requireField fields fieldName
    require (field.capabilities.group || field.capabilities.aggregate) .unsupportedCapability
      "Field does not support countDistinct." [("field", .str fieldName)]
  | .onField _ fieldName _ => do
    let field ← requireField fields fieldName
    require field.capabilities.aggregate .unsupportedCapability
      "Field does not support aggregation." [("field", .str fieldName)]
  | .weightedAvg fieldName weightFieldName _ => do
    let field ← requireField fields fieldName
    validateWeightedAggregateField field fieldName
    let weightField ← requireField fields weightFieldName
    validateWeightedAggregateField weightField weightFieldName

/-- No alias is used twice, and none is reserved; `seen` holds those seen before. -/
def requireUniqueAggregateAliases (seen : List String) :
    List AggregateSpec → Except QueryError Unit
  | [] => .ok ()
  | aggregate :: aggregates =>
    if seen.contains (aggregateAlias aggregate) then
      refuse .invalidAggregation "Aggregate aliases must be unique."
        [("alias", .str (aggregateAlias aggregate))]
    else requireUniqueAggregateAliases (aggregateAlias aggregate :: seen) aggregates

def validateAggregates (query : NormalizedQuery) (fields : Fields) : Except QueryError Unit := do
  require (!(0 < query.groupBy.length && query.aggregates.length = 0)) .invalidAggregation
    "Aggregate queries require at least one aggregate." []
  query.aggregates.forM (validateAggregate fields)
  requireUniqueAggregateAliases query.groupBy query.aggregates

def validateSort (query : NormalizedQuery) (fields : Fields) (mode : StructuredQueryMode) :
    Except QueryError Unit :=
  if mode = .aggregate then do
    requireUniqueAggregateAliases query.groupBy query.aggregates
    query.sort.forM fun item =>
      require (query.groupBy.contains item.field ||
          (query.aggregates.map aggregateAlias).contains item.field) .invalidField
        "Aggregate sort field must be a group field or aggregate alias."
        [("field", .str item.field)]
  else
    query.sort.forM fun item => do
      let field ← requireField fields item.field
      require field.capabilities.sort .unsupportedCapability "Field does not support sorting."
        [("field", .str item.field)]

/-- `parseable` says which texts `Date.parse` reads. -/
def validateScalarType (parseable : String → Bool) (type : StructuredFieldType) :
    QueryJson → Except QueryError Unit
  | .null => .ok ()
  | .num (.finite _) =>
    if type.isNumeric then .ok () else refuse .typeMismatch "String value is required." []
  | .str value =>
    if type.isNumeric then refuse .typeMismatch "Numeric value is required." []
    else if structuredQueryStringScalarChars < scriptLength value then
      refuse .limitExceeded "String value exceeds the allowed limit." []
    else if type.isDate && !parseable value then
      refuse .typeMismatch "Date value is invalid." []
    else .ok ()
  | _ =>
    if type.isNumeric then refuse .typeMismatch "Numeric value is required." []
    else refuse .typeMismatch "String value is required." []

def validateConditionValue (parseable : String → Bool) (field : StructuredFieldRegistryEntry)
    (op : String) (value : QueryJson) : Except QueryError Unit :=
  if op = "between" then
    match value with
    | .arr [start, stop] => do
      validateScalarType parseable field.type start
      validateScalarType parseable field.type stop
    | _ => refuse .typeMismatch "between requires two values." []
  else if op = "in" then
    match value with
    | .arr items =>
      if maxInValues < items.length then
        refuse .limitExceeded "in value count exceeds the allowed limit." []
      else items.forM (validateScalarType parseable field.type)
    | _ => refuse .typeMismatch "in requires an array." []
  else match value with
    | .arr _ => refuse .typeMismatch "Operator requires one scalar value." []
    | value => validateScalarType parseable field.type value

mutual

def validateFilter (parseable : String → Bool) (fields : Fields) :
    FilterNode → Except QueryError Unit
  | .and nodes => validateFilters parseable fields nodes
  | .or nodes => validateFilters parseable fields nodes
  | .not node => validateFilter parseable fields node
  | .field fieldName op value => do
    let field ← requireField fields fieldName
    require field.capabilities.filter .unsupportedCapability "Field does not support filtering."
      [("field", .str fieldName)]
    require (field.operators.contains op) .unsupportedOperator
      "Operator is not supported for this field."
      [("field", .str fieldName), ("operator", .str op)]
    validateConditionValue parseable field op value

def validateFilters (parseable : String → Bool) (fields : Fields) :
    List FilterNode → Except QueryError Unit
  | [] => .ok ()
  | node :: nodes => do
    validateFilter parseable fields node
    validateFilters parseable fields nodes

end

end StructuredQuery
end SmeDataCenter
