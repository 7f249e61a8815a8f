import SmeDataCenter.QueryStatement
import SmeDataCenter.StructuredQuery

/-!
# The compiler of structured queries

`compileNormalizedQuery` turns a validated query into a statement with a placeholder for every
parameter, and the list of parameters. The pieces of the statement and the pieces of the list
are built by the same helpers and put together apart, as in the source. What the platform does
(hashing, signing, parsing) is given by `QueryServices`.
-/

namespace SmeDataCenter
namespace StructuredQuery

open Sql

/-- A parameter of a statement. -/
inductive Param where
  | text (s : String)
  | number (n : ScriptNumber)

def natParam (n : ℕ) : Param := .number (.finite n)

/-- A predicate on business resources with its parameters, which fill it. -/
structure StructuredReadScope where
  sql : PreparedText
  params : List Param
  /-- The predicate with its parameters in place. -/
  filled : List (Token Param)
  spells : Fragment.Spells ⟨sql, params⟩ filled
  /-- The predicate has no `IN`. -/
  opensNoList : openList ∉ sql

structure BusinessAuthorization extends StructuredReadScope where
  version : String

structure CompileInput where
  orgId : String
  employeeId : Option String
  clearance : ℤ
  cursorSecret : String
  /-- The seconds of the clock. -/
  now : ℤ
  businessAuthorization : Option BusinessAuthorization

/-- What the hash of a query covers: a cursor is good for one shape only. -/
structure QueryShape where
  orgId : String
  employeeId : Option String
  clearance : ℤ
  authorizationVersion : Option String
  query : NormalizedQuery

/-- What the shape of a directory query covers. -/
structure DirectoryShape where
  orgId : String
  employeeId : Option String
  clearance : ℤ
  authorization : String × PreparedText × List Param
  query : NormalizedQuery

structure QueryServices where
  /-- Does `Date.parse` read the text? -/
  parsesDate : String → Bool
  /-- `sha256` of the stable text of a shape. -/
  hashQueryShape : QueryShape → String
  hashDirectoryShape : DirectoryShape → String
  /-- `JSON.parse` of a text in base64url; `none` when it throws. -/
  parseCursor : String → Option QueryJson
  /-- The text in base64url of `JSON.stringify`. -/
  printCursor : QueryJson → String
  /-- The HMAC of the stable text of a payload. -/
  signCursorPayload : QueryJson → String → String

/-! ### Cursors -/

def cursorFields (offset : QueryJson) (shapeHash : String) (expiresAt : QueryJson) :
    List (String × QueryJson) :=
  [("offset", offset), ("shapeHash", .str shapeHash), ("expiresAt", expiresAt)]

def createStructuredCursor (services : QueryServices) (offset : ℕ) (shapeHash secret : String)
    (now : ℤ) : String :=
  let unsigned := cursorFields (natJson offset) shapeHash
    (.num (.finite (now + cursorTtlSeconds)))
  services.printCursor (.obj (unsigned ++
    [("signature", .str (services.signCursorPayload (.obj unsigned) secret))]))

/-- An integer that is not negative. -/
def cursorOffset : Option QueryJson → Option ℕ
  | some (.num (.finite q)) => if q.den = 1 ∧ 0 ≤ q.num then some q.num.toNat else none
  | _ => none

/-- `n < now` -/
def ScriptNumber.before (n : ScriptNumber) (now : ℤ) : Bool :=
  match n with
  | .finite q => q < now
  | .infinite negative => negative

def decodeStructuredCursor (services : QueryServices) (cursor expectedShapeHash secret : String)
    (now : ℤ) : Except QueryError ℕ :=
  if cursorChars < scriptLength cursor then refuse .invalidCursor "Cursor is invalid." []
  else match services.parseCursor cursor with
    | none => refuse .invalidCursor "Cursor is invalid." []
    | some .null => .error (.internal "Cannot read properties of null (reading 'offset')")
    | some payload =>
      let fields := match payload with
        | .obj fields => fields
        | _ => []
      match cursorOffset (property fields "offset"), property fields "shapeHash",
          property fields "expiresAt", property fields "signature" with
      | some offset, some (.str shapeHash), some (.num expiresAt), some (.str signature) =>
        let expected := services.signCursorPayload
          (.obj (cursorFields (natJson offset) shapeHash (.num expiresAt))) secret
        if signature ≠ expected || shapeHash ≠ expectedShapeHash then
          refuse .invalidCursor "Cursor does not match the query shape." []
        else if expiresAt.before now then refuse .cursorExpired "Cursor has expired." []
        else .ok offset
      | _, _, _, _ => refuse .invalidCursor "Cursor is invalid." []

/-! ### Expressions -/

/-- `/^[a-zA-Z][a-zA-Z0-9_]{0,63}$/`, of a name that is then written in backquotes. -/
def quoteIdentifier (identifier : String) : Except QueryError String :=
  match identifier.toList with
  | [] => refuse .invalidQuery "Identifier is not allowed." []
  | c :: cs =>
    if c.isAlpha && cs.length ≤ 63 && cs.all fun c => c.isAlphanum || c = '_' then
      .ok identifier
    else refuse .invalidQuery "Identifier is not allowed." []

def jsonValueExpression {α : Type} (path : α) : Expression α := ⟨.unquoted, path⟩

def expressionKind : StructuredFieldType → ExpressionKind
  | .boolean => .json
  | .integer | .decimal | .percent => .decimal
  | .date => .date
  | .dateTime => .dateTime
  | .string | .timeRange => .unquoted

def typedFieldExpression {α : Type} (field : StructuredFieldRegistryEntry) (path : α) :
    Expression α := ⟨expressionKind field.type, path⟩

/-- Validation lets no object through. -/
def scalarParam : QueryJson → Except QueryError Param
  | .bool b => .ok (natParam (if b then 1 else 0))
  | .null => .ok (.text "null")
  | .str s => .ok (.text s)
  | .num n => .ok (.number n)
  | .arr _ | .obj _ => refuse .typeMismatch "Scalar value is required." []

/-- `String(value)`: validation lets only texts and null through to a `LIKE`. -/
def likeText : QueryJson → Except QueryError String
  | .str s => .ok s
  | .null => .ok "null"
  | _ => refuse .typeMismatch "String value is required." []

/-! ### Filters -/

/-- A condition and its parameters. -/
abbrev FilterFragment := FilterCondition Unit × List Param

def compileComparison (op : Comparison) (field : StructuredFieldRegistryEntry)
    (value : QueryJson) : Except QueryError FilterFragment := do
  let path ← requireJsonPath field
  let param ← scalarParam value
  return (.compare op (typedFieldExpression field ()) (), [.text path, param])

def compileLike (field : StructuredFieldRegistryEntry) (start : String) (value : QueryJson) :
    Except QueryError FilterFragment := do
  let path ← requireJsonPath field
  let text ← likeText value
  return (.like (typedFieldExpression field ()) (), [.text path, .text (start ++ text ++ "%")])

def compileCondition (field : StructuredFieldRegistryEntry) (op : String) (value : QueryJson) :
    Except QueryError FilterFragment :=
  match op, value with
  | "eq", value => compileComparison .eq field value
  | "contains", value => compileLike field "%" value
  | "starts_with", value => compileLike field "" value
  | "between", .arr [start, stop] => do
    let path ← requireJsonPath field
    let startParam ← scalarParam start
    let stopParam ← scalarParam stop
    return (.between (typedFieldExpression field ()) () (), [.text path, startParam, stopParam])
  | "in", .arr values => do
    let path ← requireJsonPath field
    let params ← values.mapM scalarParam
    return (.inList (typedFieldExpression field ()) (values.map fun _ => ()),
      .text path :: params)
  | "gt", value => compileComparison .gt field value
  | "gte", value => compileComparison .gte field value
  | "lt", value => compileComparison .lt field value
  | "lte", value => compileComparison .lte field value
  | _, _ => refuse .unsupportedOperator "Operator is not supported." []

mutual

def compileFilter (fields : Fields) : FilterNode → Except QueryError FilterFragment
  | .and nodes => do
    let fragments ← compileFilters fields nodes
    return (.and (fragments.map (·.1)), fragments.flatMap (·.2))
  | .or nodes => do
    let fragments ← compileFilters fields nodes
    return (.or (fragments.map (·.1)), fragments.flatMap (·.2))
  | .not node => do
    let fragment ← compileFilter fields node
    return (.not fragment.1, fragment.2)
  | .field fieldName op value => do
    let field ← requireField fields fieldName
    compileCondition field op value

def compileFilters (fields : Fields) : List FilterNode → Except QueryError (List FilterFragment)
  | [] => .ok []
  | node :: nodes => do
    let fragment ← compileFilter fields node
    let fragments ← compileFilters fields nodes
    return fragment :: fragments

end

/-! ### Projection and order -/

/-- Items and their parameters. -/
abbrev ItemFragment := List (SelectItem Unit) × List Param

def aggregateFunction : FieldAggregateOp → AggregateFunction
  | .countDistinct => .countDistinct
  | .sum => .sum
  | .avg => .avg
  | .min => .min
  | .max => .max

def fieldAggregateExpression (fields : Fields) (function : AggregateFunction)
    (fieldName aliasName : String) : Except QueryError ItemFragment := do
  let field ← requireField fields fieldName
  let path ← requireJsonPath field
  return ([.aggregate function (typedFieldExpression field ()) aliasName], [.text path])

def aggregateExpression (fields : Fields) (aggregate : AggregateSpec) :
    Except QueryError ItemFragment := do
  let aliasName ← quoteIdentifier (aggregateAlias aggregate)
  match aggregate with
  | .count none _ => return ([.countRows aliasName], [])
  | .count (some field) _ => fieldAggregateExpression fields .count field aliasName
  | .onField op field _ => fieldAggregateExpression fields (aggregateFunction op) field aliasName
  | .weightedAvg fieldName weightFieldName _ => do
    let field ← requireField fields fieldName
    let weightField ← requireField fields weightFieldName
    let path ← requireJsonPath field
    let weightPath ← requireJsonPath weightField
    return ([.weightedAvg (typedFieldExpression field ()) (typedFieldExpression weightField ())
      (typedFieldExpression weightField ()) aliasName],
      [.text path, .text weightPath, .text weightPath])

def groupItem (fields : Fields) (fieldName : String) : Except QueryError ItemFragment := do
  let field ← requireField fields fieldName
  let name ← quoteIdentifier field.canonicalName
  let path ← requireJsonPath field
  return ([.value (jsonValueExpression ()) name], [.text path])

def isDynamic (field : StructuredFieldRegistryEntry) : Bool := field.inputSource = .dynamicLookup

def inPayload (field : StructuredFieldRegistryEntry) : Bool :=
  field.storage.any fun storage => storage.column = .payload

/-- The item of a stored field; its parameter is pushed elsewhere. -/
def storedItem (field : StructuredFieldRegistryEntry) : Except QueryError (SelectItem Unit) := do
  let storage ← requireStorage field
  let name ← quoteIdentifier field.canonicalName
  if storage.column = .sourceDocumentId then return .sourceDocumentId name
  else return .value (jsonValueExpression ()) name

/-- The field of a path, as a parameter. -/
def pathParam (field : StructuredFieldRegistryEntry) : Except QueryError Param := do
  let path ← requireJsonPath field
  return .text path

/-- The supplier's name is read along with fields that are looked up by it. -/
def supplierNameItem (fields : Fields) (chosen : List StructuredFieldRegistryEntry) :
    Except QueryError ItemFragment :=
  if chosen.any isDynamic then do
    let name ← quoteIdentifier "structured_query_supplier_name"
    let field ← requireField fields "supplier_name"
    let path ← requireJsonPath field
    return ([.value (jsonValueExpression ()) name], [.text path])
  else .ok ([], [])

def buildProjection (query : NormalizedQuery) (fields : Fields) (mode : StructuredQueryMode) :
    Except QueryError ItemFragment :=
  match mode with
  | .aggregate => do
    let groups ← query.groupBy.mapM (groupItem fields)
    let aggregates ← query.aggregates.mapM (aggregateExpression fields)
    let fragments := groups ++ aggregates
    return (fragments.flatMap (·.1), fragments.flatMap (·.2))
  | .detail => do
    let chosen ← query.select.mapM (requireField fields)
    let storedFields := chosen.filter fun field => !isDynamic field
    let parts ← storedFields.mapM storedItem
    let params ← (storedFields.filter inPayload).mapM pathParam
    let supplier ← supplierNameItem fields chosen
    return (parts ++ supplier.1, params ++ supplier.2)

def baseFromAndWhere (input : CompileInput) (registry : StructuredDatasetRegistry) :
    BaseScope Unit × List Param :=
  let params : List Param :=
    [.text input.orgId, .text input.orgId, .text input.orgId, .text registry.dataset.text,
      .text "applied", .text "structured", .text "active"]
  let scope (rowGuard : RowGuard Unit) : BaseScope Unit := ⟨(), (), (), (), (), (), (), rowGuard⟩
  match input.businessAuthorization with
  | some authorization =>
    (scope (.authorized authorization.sql), params ++ authorization.params)
  | none => (scope (.clearance ()), params ++ [.number (.finite input.clearance)])

def SortDirection.order : SortDirection → SortOrder
  | .asc => .asc
  | .desc => .desc

def orderExpression (fields : Fields) (item : SortSpec) : Except QueryError (OrderItem Unit) := do
  let field ← requireField fields item.field
  return .expression (typedFieldExpression field ()) item.direction.order

def orderName (item : SortSpec) : Except QueryError (OrderItem Unit) := do
  let name ← quoteIdentifier item.field
  return .named name item.direction.order

/-- The sort keys of an aggregate query: those of the client, or else the group fields. -/
def aggregateSort (query : NormalizedQuery) : List SortSpec :=
  if 0 < query.sort.length then query.sort else query.groupBy.map fun field => ⟨field, .asc⟩

def buildOrderBy (query : NormalizedQuery) (fields : Fields) (mode : StructuredQueryMode) :
    Except QueryError (List (OrderItem Unit) × List Param) :=
  match mode with
  | .aggregate => do
    let items ← (aggregateSort query).mapM orderName
    return (items, [])
  | .detail => do
    let items ← query.sort.mapM (orderExpression fields)
    let params ← query.sort.mapM fun item => do pathParam (← requireField fields item.field)
    return (items ++ [.sourceRowNumber, .rowId], params)

/-! ### Compilation -/

structure StructuredCompiledQuery where
  dataset : StructuredDatasetName
  mode : StructuredQueryMode
  sql : PreparedText
  params : List Param
  selectedFields : List String
  dynamicSelectedFields : List String
  aggregateAliases : List String
  limit : ℕ
  offset : ℕ
  shapeHash : String

def queryShape (input : CompileInput) (query : NormalizedQuery) : QueryShape where
  orgId := input.orgId
  employeeId := input.employeeId
  clearance := input.clearance
  authorizationVersion := input.businessAuthorization.map (·.version)
  query := { query with page := { query.page with cursor := none } }

/-- The offset of a page: where its cursor stands, or the start. -/
def pageOffset (services : QueryServices) (input : CompileInput) (page : PageSpec)
    (shapeHash : String) : Except QueryError ℕ :=
  match page.cursor.filter (· ≠ "") with
  | some cursor => decodeStructuredCursor services cursor shapeHash input.cursorSecret input.now
  | none => .ok 0

/-- The names in a `GROUP BY`. -/
def groupNames (fields : Fields) (query : NormalizedQuery) : Except QueryError (List String) :=
  if query.mode = .aggregate then
    query.groupBy.mapM fun fieldName => do
      let field ← requireField fields fieldName
      quoteIdentifier field.canonicalName
  else .ok []

/-- `query.filter ? compileFilter(query.filter, fields) : null` -/
def compileOptionalFilter (fields : Fields) :
    Option FilterNode → Except QueryError (Option FilterFragment)
  | none => .ok none
  | some node => do return some (← compileFilter fields node)

/-- The selected fields that are looked up when the rows are there. -/
def dynamicFields (fields : Fields) (query : NormalizedQuery) :
    Except QueryError (List StructuredFieldRegistryEntry) :=
  if query.mode = .detail then do
    return (← query.select.mapM (requireField fields)).filter isDynamic
  else .ok []

def compileNormalizedQuery (services : QueryServices) (input : CompileInput)
    (query : NormalizedQuery) (registry : StructuredDatasetRegistry) :
    Except QueryError StructuredCompiledQuery :=
  match registry.rowTable with
  | none =>
    refuse .datasetRequiresPartitionExtract
      "Dataset is available through partition extracts, not row queries."
      [("dataset", .str query.dataset.text)]
  | some rowTable => do
    let fields := fieldsOf registry
    let mode := query.mode
    validateSelectedFields query fields mode
    validateAggregates query fields
    validateSort query fields mode
    query.filter.forM (validateFilter services.parsesDate fields)
    let shapeHash := services.hashQueryShape (queryShape input query)
    let offset ← pageOffset services input query.page shapeHash
    let dynamic ← dynamicFields fields query
    let projection ← buildProjection query fields mode
    let «from» := baseFromAndWhere input registry
    let filter ← compileOptionalFilter fields query.filter
    let order ← buildOrderBy query fields mode
    let groupBy ← groupNames fields query
    let statement : Statement Unit :=
      { items := projection.1, rowTable, scope := «from».1, filter := filter.map (·.1), groupBy
        orderBy := order.1, limit := (), offset := () }
    return {
      dataset := query.dataset, mode, sql := statement.tokens
      params := projection.2 ++ «from».2 ++ (filter.map (·.2)).getD [] ++ order.2 ++
        [natParam query.page.limit, natParam offset]
      selectedFields := if mode = .detail then query.select
        else query.groupBy ++ query.aggregates.map aggregateAlias
      dynamicSelectedFields := dynamic.map (·.canonicalName)
      aggregateAliases := if mode = .aggregate then query.aggregates.map aggregateAlias else []
      limit := query.page.limit, offset, shapeHash }

end StructuredQuery
end SmeDataCenter
