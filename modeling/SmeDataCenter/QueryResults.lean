import SmeDataCenter.QueryEvaluation
import SmeDataCenter.CostCardAlignment

/-!
# The results of a query

A fixed content of the database, the rows or groups that a statement has there, and the keys by
which its `ORDER BY` sorts them.
-/

namespace SmeDataCenter
namespace StructuredQuery

open Sql

/-! ### Content -/

/-- A row of a row table. -/
structure StoredRow where
  id : String
  orgId : String
  sourceDocumentId : String
  importBatchId : String
  sourceRowNumber : ℕ
  payload : Payload

/-- What a query reads of an import batch. -/
structure BatchColumns where
  id : String
  orgId : String
  dataset : String
  status : String
  archivedAt : Option ℤ

/-- What a query reads of a document. -/
structure DocumentColumns where
  id : String
  orgId : String
  documentKind : Option String
  status : String
  confidentialityLevel : ℕ
  archivedAt : Option ℤ

/-- A row of `cost_cards`: its key, and all its columns under their names. -/
structure CardColumns where
  id : String
  columns : String → SqlValue

/-- What the tables of a query hold. Identifiers are primary keys. -/
structure Content (mysql : Mysql) where
  rows : String → List StoredRow
  batches : List BatchColumns
  documents : List DocumentColumns
  cards : List CardColumns
  /-- Does an authorization predicate let a row through? -/
  permits : List (Token Param) → StoredRow → Bool
  /-- Does a card meet the conditions of a directory query? -/
  meets : List (Token Param) → CardColumns → Bool
  rowKeys : ∀ table, ((rows table).map fun row => mysql.textKey row.id).Nodup
  cardKeys : (cards.map fun card => mysql.textKey card.id).Nodup

variable {mysql : Mysql}

/-- `column = ?` -/
def Mysql.equals (mysql : Mysql) (column : String) : Param → Bool
  | .text s => mysql.textKey column = mysql.textKey s
  | .number (.finite q) => mysql.textNumber column = q
  | .number (.infinite _) => false

def BatchColumns.admitted (mysql : Mysql) (batch : BatchColumns) (scope : BaseScope Param) : Bool :=
  mysql.equals batch.orgId scope.batchOrgId && mysql.equals batch.dataset scope.dataset &&
    mysql.equals batch.status scope.batchStatus && batch.archivedAt.isNone

def DocumentColumns.admitted (mysql : Mysql) (document : DocumentColumns)
    (scope : BaseScope Param) : Bool :=
  mysql.equals document.orgId scope.documentOrgId &&
    document.documentKind.any (mysql.equals · scope.documentKind) &&
    mysql.equals document.status scope.documentStatus && document.archivedAt.isNone

/-- `d.confidentiality_level <= ?` -/
def atMost (level : ℕ) : Param → Bool
  | .number (.finite q) => level ≤ q
  | .number (.infinite negative) => !negative
  | .text _ => false

def RowGuard.admits (content : Content mysql) (row : StoredRow) (document : DocumentColumns) :
    RowGuard Param → Bool
  | .authorized predicate => content.permits predicate row
  | .clearance level => atMost document.confidentialityLevel level

/-- The conditions on every query of a dataset, of a row with its batch and its document. -/
def BaseScope.admits (content : Content mysql) (scope : BaseScope Param) (row : StoredRow) :
    Bool :=
  match content.batches.find? fun batch => batch.id = row.importBatchId,
    content.documents.find? fun document => document.id = row.sourceDocumentId with
  | some batch, some document =>
    mysql.equals row.orgId scope.rowOrgId && batch.admitted mysql scope &&
      document.admitted mysql scope && scope.rowGuard.admits content row document
  | _, _ => false

/-! ### Results -/

/-- A row of the result, or a group with the rows in it. -/
inductive QueryResult where
  | row (stored : StoredRow)
  | group (key : List SortKey) (members : List StoredRow)
  | card (columns : CardColumns)

/-- The rows that a statement selects. -/
def Statement.selected (content : Content mysql) (statement : Statement Param) : List StoredRow :=
  (content.rows statement.rowTable).filter fun row =>
    statement.scope.admits content row &&
      statement.filter.all fun condition => condition.eval mysql row.payload = .holds

def SelectItem.name {α : Type} : SelectItem α → String
  | .sourceDocumentId name | .value _ name | .countRows name | .aggregate _ _ name
  | .weightedAvg _ _ _ name => name

def SelectItem.isAggregate {α : Type} : SelectItem α → Bool
  | .sourceDocumentId _ | .value _ _ => false
  | .countRows _ | .aggregate _ _ _ | .weightedAvg _ _ _ _ => true

/-- Has a statement groups as results? -/
def Statement.isAggregate (statement : Statement Param) : Bool :=
  !statement.groupBy.isEmpty || statement.items.any SelectItem.isAggregate

/-- A column of the result, of some rows: one that is no aggregate is read from the first. -/
def SelectItem.eval (mysql : Mysql) (rows : List StoredRow) : SelectItem Param → SqlValue
  | .sourceDocumentId _ => (rows.head?.map fun row => .text row.sourceDocumentId).getD .null
  | .value e _ => (rows.head?.map fun row => e.eval mysql row.payload).getD .null
  | .countRows _ => .number rows.length
  | .aggregate function e _ =>
    function.eval mysql (rows.map fun row => e.eval mysql row.payload)
  | .weightedAvg e weight weight' _ =>
    weightedAverage mysql (rows.map (·.payload)) e weight weight'

/-- The column of a name, of some rows. -/
def Statement.column (mysql : Mysql) (statement : Statement Param) (name : String)
    (rows : List StoredRow) : SqlValue :=
  match statement.items.find? fun item => item.name = name with
  | some item => item.eval mysql rows
  | none => .null

/-- What a row is grouped by. -/
def Statement.groupKey (mysql : Mysql) (statement : Statement Param) (row : StoredRow) :
    List SortKey :=
  statement.groupBy.map fun name => (statement.column mysql name [row]).sortKey mysql

/-- The rows of a group. -/
def Statement.members (mysql : Mysql) (statement : Statement Param) (rows : List StoredRow)
    (key : List SortKey) : List StoredRow :=
  rows.filter fun row => statement.groupKey mysql row = key

/-- The groups of some rows; without a `GROUP BY` all rows are one group. -/
def Statement.groups (mysql : Mysql) (statement : Statement Param) (rows : List StoredRow) :
    List QueryResult :=
  if statement.groupBy.isEmpty then [.group [] rows]
  else (rows.map (statement.groupKey mysql)).dedup.map fun key =>
    .group key (statement.members mysql rows key)

def Statement.results (content : Content mysql) (statement : Statement Param) :
    List QueryResult :=
  if statement.isAggregate then statement.groups mysql (statement.selected content)
  else (statement.selected content).map .row

/-! ### Order -/

/-- A key in its direction. -/
abbrev OrderKey := SortKey ⊕ₗ SortKeyᵒᵈ

def SortOrder.key (order : SortOrder) (key : SortKey) : OrderKey :=
  match order with
  | .asc => Sum.inlₗ key
  | .desc => Sum.inrₗ (OrderDual.toDual key)

def QueryResult.rows : QueryResult → List StoredRow
  | .row stored => [stored]
  | .group _ members => members
  | .card _ => []

/-- A key of the first of some rows. -/
def headKey (key : StoredRow → List ℚ) : List StoredRow → SortKey
  | row :: _ => key row
  | [] => ⊥

def OrderItem.key (mysql : Mysql) (statement : Statement Param) (result : QueryResult) :
    OrderItem Param → OrderKey
  | .expression e order =>
    order.key ((SelectItem.value e "").eval mysql result.rows |>.sortKey mysql)
  | .named name order => order.key ((statement.column mysql name result.rows).sortKey mysql)
  | .sourceRowNumber =>
    SortOrder.asc.key (headKey (fun row => [(row.sourceRowNumber : ℚ)]) result.rows)
  | .rowId => SortOrder.asc.key (headKey (fun row => mysql.textKey row.id) result.rows)

/-- By what a statement sorts its results. -/
def Statement.orderKey (mysql : Mysql) (statement : Statement Param) (result : QueryResult) :
    List OrderKey :=
  statement.orderBy.map (OrderItem.key mysql statement result)

/-! ### Cost cards -/

/-- A directory query. -/
structure CardStatement where
  projection : List String
  orgId : Param
  authorization : List (Token Param)
  filter : List (Token Param)
  /-- The columns that sort the cards. -/
  orderBy : List (String × SortOrder)

/-- The conditions on a card, on its organization, its authorization and the filter. -/
def CardStatement.conditions (statement : CardStatement) : List (Token Param) :=
  [.text "CAST(c.org_id AS BINARY) = CAST(", .param statement.orgId,
    .text " AS BINARY) AND c.archived_at IS NULL AND ("] ++ statement.authorization ++
    .text ") AND (" :: statement.filter ++ [.text ")"]

def CardStatement.results (content : Content mysql) (statement : CardStatement) :
    List QueryResult :=
  (content.cards.filter (content.meets statement.conditions)).map .card

/-- The identity is compared as it is in the key of the table. -/
def CardColumns.key (mysql : Mysql) (card : CardColumns) (column : String) : SortKey :=
  if column = "c.id" then (mysql.textKey card.id : List ℚ)
  else (card.columns column).sortKey mysql

def CardStatement.orderKey (mysql : Mysql) (statement : CardStatement) :
    QueryResult → List OrderKey
  | .card card => statement.orderBy.map fun (column, order) => order.key (card.key mysql column)
  | _ => []

def costCardSortColumn (item : SortSpec) : Except QueryError (String × SortOrder) := do
  let (_, column) ← costCardColumn item.field
  return (column, item.direction.order)

/-- The columns that sort the cards of a directory query. -/
def costCardSortColumns (sort : List SortSpec) : Except QueryError (List (String × SortOrder)) := do
  let keys ← sort.mapM costCardSortColumn
  return if sort.any fun item => item.field = "cost_card_id" then keys
    else keys ++ [("c.id", .asc)]

/-! ### Plans -/

/-- What the database runs for a query. -/
inductive QueryPlan where
  | rows (statement : Statement Param)
  | cards (statement : CardStatement)

def QueryPlan.results (content : Content mysql) : QueryPlan → List QueryResult
  | .rows statement => statement.results content
  | .cards statement => statement.results content

def QueryPlan.orderKey (mysql : Mysql) : QueryPlan → QueryResult → List OrderKey
  | .rows statement => statement.orderKey mysql
  | .cards statement => statement.orderKey mysql

def cardStatement (input : CompileInput) (authorization : BusinessAuthorization)
    (body : QueryJson) : Except QueryError CardStatement := do
  let query ← normalizeStructuredDirectoryQuery body costCardDirectoryRegistry
  let filter ← costCardWhereClause query.filter
  let projection ← query.select.mapM costCardItem
  let orderBy ← costCardSortColumns query.sort
  return { projection, orgId := .text input.orgId, authorization := authorization.filled, filter
           orderBy }

/-- What the statement of a body means. The page that it asks for does not matter. -/
def queryPlan (input : CompileInput) (body : QueryJson) : Except QueryError QueryPlan :=
  if namesCostCards body then
    match input.businessAuthorization with
    | none => refuse .datasetForbidden "Current cost-card authorization is required." []
    | some authorization => do return .cards (← cardStatement input authorization body)
  else do
    let query ← normalizeQuery body none
    let registry := getStructuredRegistry query.dataset
    return .rows (← queryStatement input query registry (registry.rowTable.getD "") 0)

end StructuredQuery
end SmeDataCenter
