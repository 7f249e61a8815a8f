import SmeDataCenter.StructuredQueryCompiler

/-!
# Directory queries of cost cards

The directory of cost cards is queried over the columns of `cost_cards`, with exact comparisons
and a compiler of its own; the entry points of structured queries choose between the two.
-/

namespace SmeDataCenter
namespace StructuredQuery

open Sql

/-! ### The directory registry -/

/-- The card fields of the upload schema: canonical name, column of the file, type, nullable. -/
def costCardUploadFields : List (String × String × StructuredFieldType × Bool) :=
  [("spu_id", "菜品SPU编码", .string, false), ("sku_id", "菜品SKU编码", .string, false),
   ("dish_name", "菜品名称", .string, false), ("base_category_name", "菜品分类", .string, true),
   ("sale_price", "售卖价", .decimal, true), ("specification_name", "菜品规格", .string, true),
   ("has_cost_card", "是否配置成本卡", .boolean, false),
   ("source_dish_deleted", "菜品是否删除", .boolean, false)]

def directoryMetadata : List (String × String × StructuredFieldType × Bool) :=
  [("cost_card_id", .string), ("enterprise_name", .string), ("source_namespace", .string),
   ("revision", .string), ("source_document_id", .string), ("import_batch_id", .string),
   ("item_row_count", .integer), ("recipe_count", .integer), ("byte_size", .integer),
   ("csv_schema_version", .integer)].map fun entry => (entry.1, entry.1, entry.2, false)

def directoryOperators (canonicalName : String) : StructuredFieldType → List String
  | .string => ["eq", "in"] ++
    if ["dish_name", "specification_name", "base_category_name"].contains canonicalName then
      ["contains", "starts_with"] else []
  | .boolean => ["eq", "in"]
  | _ => ["eq", "in", "gt", "gte", "lt", "lte"]

def directoryField (definition : String × String × StructuredFieldType × Bool) :
    StructuredFieldRegistryEntry :=
  let (canonicalName, sourceColumn, type, nullable) := definition
  { canonicalName, sourceColumn, type, nullable
    inputSource := .file
    defaultReturn := true
    operators := directoryOperators canonicalName type
    capabilities := { filter := true, sort := true, group := false, aggregate := false }
    storage := none }

def costCardDirectoryRegistry : StructuredDatasetRegistry where
  dataset := .costCards
  accessMode := .catalogQuery
  rowTable := none
  fields := (costCardUploadFields ++ directoryMetadata).map directoryField

/-- `normalizeStructuredDirectoryQuery` -/
def normalizeStructuredDirectoryQuery (input : QueryJson) (registry : StructuredDatasetRegistry) :
    Except QueryError NormalizedQuery := do
  let query ← normalizeQuery input (some registry)
  require (query.dataset = registry.dataset && query.groupBy.length = 0 &&
      query.aggregates.length = 0) .unsupportedCapability
    "This dataset supports directory detail queries only." []
  validateSelectedFields query (fieldsOf registry) .detail
  validateSort query (fieldsOf registry) .detail
  return query

/-! ### Values -/

/-- `/^([+-]?)(?:(\d+)(?:\.(\d*))?|\.(\d+))(%?)$/`: sign, digits before and after the point,
percent sign. -/
def decimalPattern : Pattern (Text × Text × Text × Text) := do
  let sign ← Pattern.times (fun c => c = '+' || c = '-') 0 1
  let digits ← Pattern.either
    (do
      let integer ← Pattern.many1 Text.isDigit
      let fraction ← Pattern.either
        (do let _ ← Pattern.char (· = '.'); Pattern.greedy Text.isDigit) (pure [])
      return (integer, fraction))
    (do
      let _ ← Pattern.char (· = '.')
      let fraction ← Pattern.many1 Text.isDigit
      return (['0'], fraction))
  let percent ← Pattern.times (· = '%') 0 1
  let _ ← Pattern.atEnd
  return (sign, digits.1, digits.2, percent)

/-- `replace(/^0+(?=\d)/, "")`, of digits only. -/
def dropLeadingZeros : Text → Text
  | '0' :: c :: cs => dropLeadingZeros (c :: cs)
  | text => text

/-- An exact decimal in one spelling; `none` when it is refused. -/
def normalizeCostCardDecimal (value : String) (percent : Bool) : Option String :=
  match decimalPattern.exec (Text.trim value.toList) with
  | none => none
  | some (sign, integer, fraction, percentSign) =>
    if !percentSign.isEmpty && !percent then none
    else
      let integer := dropLeadingZeros integer
      let (integer, fraction) :=
        if percentSign.isEmpty then (integer, fraction)
        else
          let digits := List.replicate (3 - integer.length) '0' ++ integer
          (digits.take (digits.length - 2), digits.drop (digits.length - 2) ++ fraction)
      let integer := dropLeadingZeros integer
      let fraction := fraction.rdropWhile (· = '0')
      if 6 < fraction.length || (if percent then 6 else 14) < integer.length then none
      else
        let zero : Bool := integer = ['0'] && fraction.isEmpty
        some (String.ofList ((if sign = ['-'] && !zero then ['-'] else []) ++ integer ++
          (if fraction.isEmpty then [] else '.' :: fraction)))

/-- `replaceAll` of one character. -/
def replaceCharacter (c : Char) (replacement : Text) (text : Text) : Text :=
  text.flatMap fun d => if d = c then replacement else [d]

def literalLike (text : String) : String :=
  String.ofList (replaceCharacter '_' ['!', '_'] (replaceCharacter '%' ['!', '%']
    (replaceCharacter '!' ['!', '!'] text.toList)))

def maxLengths : List (String × ℕ) :=
  [("spu_id", 64), ("sku_id", 64), ("dish_name", 512), ("specification_name", 255),
   ("base_category_name", 255), ("enterprise_name", 255), ("source_namespace", 128),
   ("cost_card_id", 32), ("source_document_id", 32), ("import_batch_id", 32), ("revision", 20)]

def invalid {α : Type} (message : String) : Except QueryError α := refuse .invalidQuery message []

/-- `Number.isSafeInteger` -/
def ScriptNumber.isSafeInteger : ScriptNumber → Bool
  | .finite q => q.den = 1 && q.num.natAbs ≤ 2 ^ 53 - 1
  | .infinite _ => false

/-- The value of a condition, or none for null. -/
def costCardScalar (field : StructuredFieldRegistryEntry) (value : QueryJson) :
    Except QueryError (Option Param) :=
  match value with
  | .null => .ok none
  | value =>
    if field.type = .decimal then
      match value with
      | .str s =>
        match normalizeCostCardDecimal s false with
        | some decimal => .ok (some (.text decimal))
        | none => invalid "Cost-card decimal filter is invalid."
      | _ => invalid "Cost-card decimal filters require exact decimal strings."
    else if field.type = .integer then
      match value with
      | .num n =>
        if n.isSafeInteger then .ok (some (.number n))
        else invalid "Directory count filters require safe integers."
      | _ => invalid "Directory count filters require safe integers."
    else if field.type = .boolean then
      match value with
      | .bool b => .ok (some (natParam (if b then 1 else 0)))
      | _ => invalid "Directory boolean filters require booleans."
    else
      match value with
      | .str s =>
        if (maxLengths.lookup field.canonicalName).getD 512 < scriptLength s then
          invalid "Directory text filter is invalid."
        else .ok (some (.text s))
      | _ => invalid "Directory text filter is invalid."

/-! ### Conditions -/

/-- A field of the directory and its column. -/
def costCardColumn (fieldName : String) :
    Except QueryError (StructuredFieldRegistryEntry × String) :=
  match (fieldsOf costCardDirectoryRegistry).lookup fieldName with
  | none => invalid "Field is not in the cost-card directory registry."
  | some field => .ok (field, "c." ++ if fieldName = "cost_card_id" then "id" else fieldName)

/-- How a column is compared: a text by its bytes. -/
def targetExpression (field : StructuredFieldRegistryEntry) (target : String) : String :=
  if field.type = .string then "CAST(" ++ target ++ " AS BINARY)" else target

/-- The placeholder of a value, as the type of the field wants it. -/
def placeholderTokens {α : Type} (field : StructuredFieldRegistryEntry) (a : α) :
    List (Token α) :=
  match field.type with
  | .string => [.text "CAST(", .param a, .text " AS BINARY)"]
  | .decimal => [.text "CAST(", .param a, .text " AS DECIMAL(20,6))"]
  | _ => [.param a]

def comparisonOperators : List (String × String) :=
  [("eq", "="), ("gt", ">"), ("gte", ">="), ("lt", "<"), ("lte", "<=")]

/-- The parts of an `in` condition, which are joined by `OR`: the values and null. -/
def inParts {α : Type} (field : StructuredFieldRegistryEntry) (target : String)
    (values : List α) (null : Bool) : List (List (Token α)) :=
  (if values.isEmpty then []
    else [.text (targetExpression field target) :: openList ::
      joinText ", " (values.map (placeholderTokens field)) ++ [.text ")"]]) ++
  (if null then [[.text (target ++ " IS NULL")]] else [])

/-- Any part of an `in` condition; none of them holds when there are none. -/
def inTokens {α : Type} (parts : List (List (Token α))) : List (Token α) :=
  if parts.isEmpty then [.text "0 = 1"]
  else .text "(" :: joinText " OR " parts ++ [.text ")"]

def likeTokens {α : Type} (field : StructuredFieldRegistryEntry) (target : String) (a : α) :
    List (Token α) :=
  [.text (targetExpression field target ++ " LIKE CAST("), .param a,
    .text " AS BINARY) ESCAPE '!'"]

def compareTokens {α : Type} (field : StructuredFieldRegistryEntry) (target operator : String)
    (a : α) : List (Token α) :=
  .text (targetExpression field target ++ " " ++ operator ++ " ") :: placeholderTokens field a

def costCardLike (field : StructuredFieldRegistryEntry) (target start : String)
    (value : QueryJson) : Except QueryError (Fragment Param) := do
  match ← costCardScalar field value with
  | some (.text text) =>
    return ⟨likeTokens field target (), [.text (start ++ literalLike text ++ "%")]⟩
  | _ => invalid "Name search requires a string."

def costCardIn (field : StructuredFieldRegistryEntry) (target : String) (value : QueryJson) :
    Except QueryError (Fragment Param) :=
  match value with
  | .arr items =>
    if maxInValues < items.length then invalid "Directory in filter requires a bounded array."
    else do
      let values ← items.mapM (costCardScalar field)
      let nonNull := values.filterMap id
      return ⟨inTokens (inParts field target (nonNull.map fun _ => ())
        (values.any (·.isNone))), nonNull⟩
  | _ => invalid "Directory in filter requires a bounded array."

def costCardComparison (field : StructuredFieldRegistryEntry) (target op : String)
    (value : QueryJson) : Except QueryError (Fragment Param) := do
  match ← costCardScalar field value with
  | none =>
    if op ≠ "eq" then invalid "Null values support equality only."
    else return ⟨[.text (target ++ " IS NULL")], []⟩
  | some parsed =>
    match comparisonOperators.lookup op with
    | none => invalid "Directory operator is invalid."
    | some operator => return ⟨compareTokens field target operator (), [parsed]⟩

def costCardCondition (fieldName op : String) (value : QueryJson) :
    Except QueryError (Fragment Param) := do
  let (field, target) ← costCardColumn fieldName
  if !field.operators.contains op then
    invalid "Operator is not supported by the directory field."
  else if op = "contains" then costCardLike field target "%" value
  else if op = "starts_with" then costCardLike field target "" value
  else if op = "in" then costCardIn field target value
  else costCardComparison field target op value

/-- Each text in parentheses. -/
def parenthesized {α : Type} (parts : List (List (Token α))) : List (List (Token α)) :=
  parts.map fun part => .text "(" :: part ++ [.text ")"]

mutual

def costCardFilter : FilterNode → Except QueryError (Fragment Param)
  | .not node => do
    let inner ← costCardFilter node
    return ⟨.text "NOT (" :: inner.sql ++ [.text ")"], inner.params⟩
  | .and nodes => do
    let children ← costCardFilters nodes
    return ⟨joinText " AND " (parenthesized (children.map (·.sql))),
      children.flatMap (·.params)⟩
  | .or nodes => do
    let children ← costCardFilters nodes
    return ⟨joinText " OR " (parenthesized (children.map (·.sql))),
      children.flatMap (·.params)⟩
  | .field fieldName op value => costCardCondition fieldName op value

def costCardFilters : List FilterNode → Except QueryError (List (Fragment Param))
  | [] => .ok []
  | node :: nodes => do
    let child ← costCardFilter node
    let children ← costCardFilters nodes
    return child :: children

end

/-- The filter of a query, or `1 = 1`. -/
def costCardWhere : Option FilterNode → Except QueryError (Fragment Param)
  | none => .ok ⟨[.text "1 = 1"], []⟩
  | some node => costCardFilter node

/-! ### The compiler -/

/-- A selected column, under its name. -/
def costCardItem (name : String) : Except QueryError String := do
  let (_, column) ← costCardColumn name
  return (if name = "sale_price" || name = "revision" then "CAST(" ++ column ++ " AS CHAR)"
    else column) ++ " AS " ++ quotedName name

def costCardSortKey (item : SortSpec) : Except QueryError String := do
  let (_, column) ← costCardColumn item.field
  return column ++ " " ++ item.direction.order.text

/-- The sort keys, with the identity of the card last unless the client sorts by it. -/
def costCardSort (sort : List SortSpec) : Except QueryError (List String) := do
  let keys ← sort.mapM costCardSortKey
  return if sort.any fun item => item.field = "cost_card_id" then keys else keys ++ ["c.id ASC"]

/-- The statement of a directory query. -/
def costCardTokens {α : Type} (projection : List String) (orgId : α)
    (authorization filter : List (Token α)) (sort : List String) (limit offset : α) :
    List (Token α) :=
  [.text ("SELECT " ++ ", ".intercalate projection ++
      " FROM cost_cards c WHERE CAST(c.org_id AS BINARY) = CAST("), .param orgId,
    .text " AS BINARY) AND c.archived_at IS NULL AND ("] ++ authorization ++
    .text ") AND (" :: filter ++
    [.text (") ORDER BY " ++ ", ".intercalate sort ++ " LIMIT "), .param limit,
      .text " OFFSET ", .param offset]

def directoryShape (input : CompileInput) (authorization : BusinessAuthorization)
    (query : NormalizedQuery) : DirectoryShape where
  orgId := input.orgId
  employeeId := input.employeeId
  clearance := input.clearance
  authorization := (authorization.version, authorization.sql, authorization.params)
  query := { query with page := { query.page with cursor := none } }

def compileCostCardQuery (services : QueryServices) (input : CompileInput) (body : QueryJson) :
    Except QueryError StructuredCompiledQuery :=
  match input.businessAuthorization with
  | none => refuse .datasetForbidden "Current cost-card authorization is required." []
  | some authorization => do
    let query ← normalizeStructuredDirectoryQuery body costCardDirectoryRegistry
    let filter ← costCardWhere query.filter
    let shapeHash := services.hashDirectoryShape (directoryShape input authorization query)
    let offset ← pageOffset services input query.page shapeHash
    let projection ← query.select.mapM costCardItem
    let sort ← costCardSort query.sort
    return {
      dataset := .costCards, mode := .detail
      sql := costCardTokens projection () authorization.sql filter.sql sort () ()
      params := [.text input.orgId] ++ authorization.params ++ filter.params ++
        [natParam query.page.limit, natParam offset]
      selectedFields := query.select, dynamicSelectedFields := [], aggregateAliases := []
      limit := query.page.limit, offset, shapeHash }

/-! ### Entry points -/

/-- Does the body name the dataset `cost_cards`? -/
def namesCostCards : QueryJson → Bool
  | .obj fields =>
    match property fields "dataset" with
    | some (.str name) => name = "cost_cards"
    | _ => false
  | _ => false

def compileStructuredQuery (services : QueryServices) (input : CompileInput) (body : QueryJson) :
    Except QueryError StructuredCompiledQuery :=
  if namesCostCards body then compileCostCardQuery services input body
  else do
    let query ← normalizeQuery body none
    compileNormalizedQuery services input query (getStructuredRegistry query.dataset)

/-- `getPublicStructuredRegistry`, of the datasets that a public query reaches. -/
def getPublicStructuredRegistry (dataset : StructuredDatasetName) : StructuredDatasetRegistry :=
  match dataset with
  | .costCards => { getStructuredRegistry .costCards with fields := costCardDirectoryRegistry.fields }
  | .deliveryLedger => { getStructuredRegistry .deliveryLedger with rowTable := none, fields := [] }
  | dataset => getStructuredRegistry dataset

def compilePublicStructuredQuery (services : QueryServices) (input : CompileInput)
    (body : QueryJson) : Except QueryError StructuredCompiledQuery :=
  if namesCostCards body then compileCostCardQuery services input body
  else do
    let query ← normalizeQuery body none
    if query.dataset = .deliveryLedger then
      refuse .ledgerDetailDisabled
        "Ledger reads are disabled. Use the archived PDF APIs for ledger documents." []
    else compileNormalizedQuery services input query (getPublicStructuredRegistry query.dataset)

end StructuredQuery
end SmeDataCenter
