import SmeDataCenter.StructuredQueryCompiler

/-!
# What a structured query stands for

The statement of a query with every parameter in its own clause: beside each helper of the
compiler stands the clause that the helper is for, with the values that belong to it. The
compiled text and its list of parameters are compared with this statement.
-/

namespace SmeDataCenter
namespace StructuredQuery

open Sql

/-- The field of an expression, typed, at its own path. -/
def fieldExpression (field : StructuredFieldRegistryEntry) :
    Except QueryError (Expression Param) := do
  return typedFieldExpression field (.text (← requireJsonPath field))

/-- The field of an expression, as a text. -/
def fieldText (field : StructuredFieldRegistryEntry) : Except QueryError (Expression Param) := do
  return jsonValueExpression (.text (← requireJsonPath field))

/-! ### The filter -/

def comparisonClause (op : Comparison) (field : StructuredFieldRegistryEntry)
    (value : QueryJson) : Except QueryError (FilterCondition Param) := do
  return .compare op (← fieldExpression field) (← scalarParam value)

def likeClause (field : StructuredFieldRegistryEntry) (start : String) (value : QueryJson) :
    Except QueryError (FilterCondition Param) := do
  return .like (← fieldExpression field) (.text (start ++ (← likeText value) ++ "%"))

def conditionClause (field : StructuredFieldRegistryEntry) (op : String) (value : QueryJson) :
    Except QueryError (FilterCondition Param) :=
  match op, value with
  | "eq", value => comparisonClause .eq field value
  | "contains", value => likeClause field "%" value
  | "starts_with", value => likeClause field "" value
  | "between", .arr [start, stop] => do
    return .between (← fieldExpression field) (← scalarParam start) (← scalarParam stop)
  | "in", .arr values => do
    return .inList (← fieldExpression field) (← values.mapM scalarParam)
  | "gt", value => comparisonClause .gt field value
  | "gte", value => comparisonClause .gte field value
  | "lt", value => comparisonClause .lt field value
  | "lte", value => comparisonClause .lte field value
  | _, _ => refuse .unsupportedOperator "Operator is not supported." []

mutual

def filterClause (fields : Fields) : FilterNode → Except QueryError (FilterCondition Param)
  | .and nodes => do
    let clauses ← filterClauses fields nodes
    return .and clauses
  | .or nodes => do
    let clauses ← filterClauses fields nodes
    return .or clauses
  | .not node => do
    let clause ← filterClause fields node
    return .not clause
  | .field fieldName op value => do
    let field ← requireField fields fieldName
    conditionClause field op value

def filterClauses (fields : Fields) :
    List FilterNode → Except QueryError (List (FilterCondition Param))
  | [] => .ok []
  | node :: nodes => do
    let clause ← filterClause fields node
    let clauses ← filterClauses fields nodes
    return clause :: clauses

end

def optionalFilterClause (fields : Fields) :
    Option FilterNode → Except QueryError (Option (FilterCondition Param))
  | none => .ok none
  | some node => do return some (← filterClause fields node)

/-! ### The projection -/

def fieldAggregateItem (fields : Fields) (function : AggregateFunction)
    (fieldName aliasName : String) : Except QueryError (SelectItem Param) := do
  let field ← requireField fields fieldName
  return .aggregate function (← fieldExpression field) aliasName

def aggregateItem (fields : Fields) (aggregate : AggregateSpec) :
    Except QueryError (SelectItem Param) := do
  let aliasName ← quoteIdentifier (aggregateAlias aggregate)
  match aggregate with
  | .count none _ => return .countRows aliasName
  | .count (some field) _ => fieldAggregateItem fields .count field aliasName
  | .onField op field _ => fieldAggregateItem fields (aggregateFunction op) field aliasName
  | .weightedAvg fieldName weightFieldName _ => do
    let field ← requireField fields fieldName
    let weightField ← requireField fields weightFieldName
    let expression ← fieldExpression field
    let weight ← fieldExpression weightField
    return .weightedAvg expression weight weight aliasName

def groupSelectItem (fields : Fields) (fieldName : String) :
    Except QueryError (SelectItem Param) := do
  let field ← requireField fields fieldName
  let name ← quoteIdentifier field.canonicalName
  return .value (← fieldText field) name

/-- A stored field: its document, or the text at its path. -/
def storedSelectItem (field : StructuredFieldRegistryEntry) :
    Except QueryError (SelectItem Param) := do
  let storage ← requireStorage field
  let name ← quoteIdentifier field.canonicalName
  if storage.column = .sourceDocumentId then return .sourceDocumentId name
  else return .value (← fieldText field) name

def supplierSelectItems (fields : Fields) (chosen : List StructuredFieldRegistryEntry) :
    Except QueryError (List (SelectItem Param)) :=
  if chosen.any isDynamic then do
    let name ← quoteIdentifier "structured_query_supplier_name"
    let field ← requireField fields "supplier_name"
    return [.value (← fieldText field) name]
  else .ok []

def projectionItems (query : NormalizedQuery) (fields : Fields) (mode : StructuredQueryMode) :
    Except QueryError (List (SelectItem Param)) :=
  match mode with
  | .aggregate => do
    let groups ← query.groupBy.mapM (groupSelectItem fields)
    let aggregates ← query.aggregates.mapM (aggregateItem fields)
    return groups ++ aggregates
  | .detail => do
    let chosen ← query.select.mapM (requireField fields)
    let items ← (chosen.filter fun field => !isDynamic field).mapM storedSelectItem
    let supplier ← supplierSelectItems fields chosen
    return items ++ supplier

/-! ### The scope and the order -/

def rowGuard (input : CompileInput) : RowGuard Param :=
  match input.businessAuthorization with
  | some authorization => .authorized authorization.filled
  | none => .clearance (.number (.finite input.clearance))

def baseScope (input : CompileInput) (registry : StructuredDatasetRegistry) : BaseScope Param where
  rowOrgId := .text input.orgId
  batchOrgId := .text input.orgId
  documentOrgId := .text input.orgId
  dataset := .text registry.dataset.text
  batchStatus := .text "applied"
  documentKind := .text "structured"
  documentStatus := .text "active"
  rowGuard := rowGuard input

def orderKey (fields : Fields) (item : SortSpec) : Except QueryError (OrderItem Param) := do
  let field ← requireField fields item.field
  return .expression (← fieldExpression field) item.direction.order

def orderAlias (item : SortSpec) : Except QueryError (OrderItem Param) := do
  return .named (← quoteIdentifier item.field) item.direction.order

def orderItems (query : NormalizedQuery) (fields : Fields) (mode : StructuredQueryMode) :
    Except QueryError (List (OrderItem Param)) :=
  match mode with
  | .aggregate => (aggregateSort query).mapM orderAlias
  | .detail => do
    let keys ← query.sort.mapM (orderKey fields)
    return keys ++ [.sourceRowNumber, .rowId]

/-! ### The statement -/

/-- The statement of a page of a query, each parameter in its clause. -/
def queryStatement (input : CompileInput) (query : NormalizedQuery)
    (registry : StructuredDatasetRegistry) (rowTable : String) (offset : ℕ) :
    Except QueryError (Statement Param) := do
  let fields := fieldsOf registry
  let items ← projectionItems query fields query.mode
  let filter ← optionalFilterClause fields query.filter
  let orderBy ← orderItems query fields query.mode
  let groupBy ← groupNames fields query
  return { items, rowTable, scope := baseScope input registry, filter, groupBy, orderBy
           limit := natParam query.page.limit, offset := natParam offset }

end StructuredQuery
end SmeDataCenter
