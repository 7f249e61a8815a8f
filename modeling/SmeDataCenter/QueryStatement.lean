import SmeDataCenter.SqlText

/-!
# The statements of structured queries

The syntax of the statements that the compiler of structured queries writes, with a value of
type `α` for every parameter: `Unit` in a prepared statement, where every one is `?`. `tokens` is
the text, and the parameters stand in it in the order in which they stand in the syntax.
-/

namespace SmeDataCenter
namespace StructuredQuery

open Sql

variable {α : Type}

/-- How a field is read from the payload of a row. -/
inductive ExpressionKind where
  | json
  | unquoted
  | decimal
  | date
  | dateTime
  deriving DecidableEq

/-- An expression on the field at a path of the payload. -/
structure Expression (α : Type) where
  kind : ExpressionKind
  path : α
  deriving DecidableEq

def Expression.tokens (e : Expression α) : List (Token α) :=
  match e.kind with
  | .json => [.text "JSON_EXTRACT(r.payload, ", .param e.path, .text ")"]
  | .unquoted => [.text "JSON_UNQUOTE(JSON_EXTRACT(r.payload, ", .param e.path, .text "))"]
  | .decimal =>
    [.text "CAST(JSON_UNQUOTE(JSON_EXTRACT(r.payload, ", .param e.path,
      .text ")) AS DECIMAL(20, 6))"]
  | .date =>
    [.text "STR_TO_DATE(JSON_UNQUOTE(JSON_EXTRACT(r.payload, ", .param e.path,
      .text ")), '%Y-%m-%d')"]
  | .dateTime =>
    [.text "STR_TO_DATE(JSON_UNQUOTE(JSON_EXTRACT(r.payload, ", .param e.path,
      .text ")), '%Y-%m-%dT%H:%i:%s')"]

inductive Comparison where
  | eq
  | gt
  | gte
  | lt
  | lte
  deriving DecidableEq

def Comparison.text : Comparison → String
  | .eq => "="
  | .gt => ">"
  | .gte => ">="
  | .lt => "<"
  | .lte => "<="

/-- A condition of a filter. -/
inductive FilterCondition (α : Type) where
  | compare (op : Comparison) (e : Expression α) (value : α)
  | like (e : Expression α) (pattern : α)
  | between (e : Expression α) (start stop : α)
  | inList (e : Expression α) (values : List α)
  | and (conditions : List (FilterCondition α))
  | or (conditions : List (FilterCondition α))
  | not (condition : FilterCondition α)

/-- What opens an `IN` list. -/
def openList : Token α := .text " IN ("

mutual

def FilterCondition.tokens : FilterCondition α → List (Token α)
  | .compare op e value => e.tokens ++ [.text (" " ++ op.text ++ " "), .param value]
  | .like e pattern => e.tokens ++ [.text " LIKE ", .param pattern]
  | .between e start stop =>
    e.tokens ++ [.text " BETWEEN ", .param start, .text " AND ", .param stop]
  | .inList e values =>
    e.tokens ++ openList :: joinText ", " (values.map fun v => [.param v]) ++ [.text ")"]
  | .and conditions => joinText " AND " (FilterCondition.tokensOfAll conditions)
  | .or conditions => joinText " OR " (FilterCondition.tokensOfAll conditions)
  | .not condition => .text "NOT (" :: FilterCondition.tokens condition ++ [.text ")"]

/-- Every condition in parentheses. -/
def FilterCondition.tokensOfAll : List (FilterCondition α) → List (List (Token α))
  | [] => []
  | condition :: conditions =>
    (.text "(" :: FilterCondition.tokens condition ++ [.text ")"]) ::
      FilterCondition.tokensOfAll conditions

end

inductive AggregateFunction where
  | count
  | countDistinct
  | sum
  | avg
  | min
  | max
  deriving DecidableEq

/-- The function up to its argument. -/
def AggregateFunction.text : AggregateFunction → String
  | .count => "COUNT("
  | .countDistinct => "COUNT(DISTINCT "
  | .sum => "SUM("
  | .avg => "AVG("
  | .min => "MIN("
  | .max => "MAX("

/-- A column of the result, under its name. -/
inductive SelectItem (α : Type) where
  | sourceDocumentId (name : String)
  | value (e : Expression α) (name : String)
  | countRows (name : String)
  | aggregate (function : AggregateFunction) (e : Expression α) (name : String)
  /-- `SUM(e * w) / NULLIF(SUM(w), 0)` -/
  | weightedAvg (e weight weight' : Expression α) (name : String)
  deriving DecidableEq

/-- An identifier in backquotes. -/
def quotedName (name : String) : String := "\x60" ++ name ++ "\x60"

def SelectItem.tokens : SelectItem α → List (Token α)
  | .sourceDocumentId name => [.text ("r.source_document_id AS " ++ quotedName name)]
  | .value e name => e.tokens ++ [.text (" AS " ++ quotedName name)]
  | .countRows name => [.text ("COUNT(*) AS " ++ quotedName name)]
  | .aggregate function e name =>
    .text function.text :: e.tokens ++ [.text (") AS " ++ quotedName name)]
  | .weightedAvg e weight weight' name =>
    .text "SUM(" :: e.tokens ++ .text " * " :: weight.tokens ++ .text ") / NULLIF(SUM(" ::
      weight'.tokens ++ [.text ("), 0) AS " ++ quotedName name)]

/-- Who may read a row: the predicate of the business authorization, or a clearance. -/
inductive RowGuard (α : Type) where
  | authorized (predicate : List (Token α))
  | clearance (level : α)

def RowGuard.tokens : RowGuard α → List (Token α)
  | .authorized predicate => .text " AND (" :: predicate ++ [.text ")"]
  | .clearance level => [.text " AND d.confidentiality_level <= ", .param level]

/-- The joins and the conditions on every query of a dataset. -/
structure BaseScope (α : Type) where
  rowOrgId : α
  batchOrgId : α
  documentOrgId : α
  dataset : α
  batchStatus : α
  documentKind : α
  documentStatus : α
  rowGuard : RowGuard α

def BaseScope.tokens (scope : BaseScope α) : List (Token α) :=
  [.text "JOIN import_batches ib ON ib.id = r.import_batch_id JOIN documents d ON d.id = r.source_document_id WHERE r.org_id = ",
    .param scope.rowOrgId, .text " AND ib.org_id = ", .param scope.batchOrgId,
    .text " AND d.org_id = ", .param scope.documentOrgId, .text " AND ib.dataset = ",
    .param scope.dataset, .text " AND ib.status = ", .param scope.batchStatus,
    .text " AND ib.archived_at IS NULL AND d.document_kind = ", .param scope.documentKind,
    .text " AND d.status = ", .param scope.documentStatus,
    .text " AND d.archived_at IS NULL"] ++ scope.rowGuard.tokens

inductive SortOrder where
  | asc
  | desc
  deriving DecidableEq

def SortOrder.text : SortOrder → String
  | .asc => "ASC"
  | .desc => "DESC"

/-- A sort key. -/
inductive OrderItem (α : Type) where
  | expression (e : Expression α) (order : SortOrder)
  | named (name : String) (order : SortOrder)
  | sourceRowNumber
  | rowId
  deriving DecidableEq

def OrderItem.tokens : OrderItem α → List (Token α)
  | .expression e order => e.tokens ++ [.text (" " ++ order.text)]
  | .named name order => [.text (quotedName name ++ " " ++ order.text)]
  | .sourceRowNumber => [.text "r.source_row_number ASC"]
  | .rowId => [.text "r.id ASC"]

/-- A keyword and what it lists, or nothing when it lists nothing. -/
def listClause (keyword : String) (items : List (List (Token α))) : List (Token α) :=
  if items.isEmpty then [] else .text keyword :: joinText ", " items

/-- `SELECT … FROM … WHERE … GROUP BY … ORDER BY … LIMIT ? OFFSET ?` -/
structure Statement (α : Type) where
  items : List (SelectItem α)
  rowTable : String
  scope : BaseScope α
  filter : Option (FilterCondition α)
  groupBy : List String
  orderBy : List (OrderItem α)
  limit : α
  offset : α

def filterTokens : Option (FilterCondition α) → List (Token α)
  | none => []
  | some condition => .text " AND (" :: condition.tokens ++ [.text ")"]

def Statement.tokens (statement : Statement α) : List (Token α) :=
  .text "SELECT " :: joinText ", " (statement.items.map SelectItem.tokens) ++
    .text (" FROM " ++ statement.rowTable ++ " r ") :: statement.scope.tokens ++
    filterTokens statement.filter ++
    listClause " GROUP BY " (statement.groupBy.map fun name => [.text (quotedName name)]) ++
    listClause " ORDER BY " (statement.orderBy.map OrderItem.tokens) ++
    [.text " LIMIT ", .param statement.limit, .text " OFFSET ", .param statement.offset]

end StructuredQuery
end SmeDataCenter
