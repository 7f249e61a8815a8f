import SmeDataCenter.CostCardCatalog
import SmeDataCenter.CostCardQuery
import SmeDataCenter.SqlLike

/-!
# Selections of cost cards

A selection has filters that all have to hold; a list of values is met by any of them. It is
compiled to conditions on the rows of the catalog, which the database evaluates on the bytes of
the texts. A snapshot is what a reader may see of the selected cards.
-/

namespace SmeDataCenter
namespace CostCardCatalog

open ScriptText EnterpriseNames
open EvidenceChunks (isBlank)
open StructuredQuery (maxInValues maxLengths directoryOperators)

structure CostCardSelection where
  enterpriseName : Option ScriptText := none
  costCardIds : Option (List ScriptText) := none
  spuIds : Option (List ScriptText) := none
  skuIds : Option (List ScriptText) := none
  dishName : Option ScriptText := none
  dishNameContains : Option ScriptText := none
  specificationName : Option ScriptText := none
  baseCategoryName : Option ScriptText := none

/-! ### Reading a selection -/

/-- `selectionFields`: the text of a field. -/
def selectionText (limit : ℕ) : Option ScriptText → Except CostCardError (Option ScriptText)
  | none => .ok none
  | some value =>
    if isBlank value || limit < value.length then .error .invalidQuery else .ok (some value)

/-- `selectionArrays`: the values of a field, each of them once. -/
def selectionArray (limit : ℕ) :
    Option (List ScriptText) → Except CostCardError (Option (List ScriptText))
  | none => .ok none
  | some values =>
    if values.isEmpty || maxInValues < values.length ||
        values.any (fun item => isBlank item || limit < item.length) then .error .invalidQuery
    else .ok (some values.eraseDups)

/-- `parseCostCardSelection`. A field that is none of these, or of another type, is refused. -/
def parseCostCardSelection (input : CostCardSelection) :
    Except CostCardError CostCardSelection := do
  let enterpriseName ← selectionText 255 input.enterpriseName
  let costCardIds ← selectionArray 32 input.costCardIds
  let spuIds ← selectionArray 64 input.spuIds
  let skuIds ← selectionArray 64 input.skuIds
  let dishName ← selectionText 512 input.dishName
  let dishNameContains ← selectionText 512 input.dishNameContains
  let specificationName ← selectionText 255 input.specificationName
  let baseCategoryName ← selectionText 255 input.baseCategoryName
  return {
    enterpriseName := enterpriseName, costCardIds, spuIds, skuIds, dishName, dishNameContains
    specificationName, baseCategoryName }

/-! ### Conditions -/

inductive CardColumn where
  | costCardId
  | spuId
  | skuId
  | dishName
  | specificationName
  | baseCategoryName
  deriving DecidableEq

/-- The name of the field in the directory registry. -/
def CardColumn.fieldName : CardColumn → String
  | .costCardId => "cost_card_id"
  | .spuId => "spu_id"
  | .skuId => "sku_id"
  | .dishName => "dish_name"
  | .specificationName => "specification_name"
  | .baseCategoryName => "base_category_name"

def CardColumn.value : CardColumn → CostCard → Option String
  | .costCardId, card => some card.id.1
  | .spuId, card => some card.spuId
  | .skuId, card => some card.skuId
  | .dishName, card => some card.dishName
  | .specificationName, card => card.specificationName
  | .baseCategoryName, card => card.baseCategoryName

inductive SelectionCondition where
  | enterpriseKey (key : ScriptText)
  | oneOf (column : CardColumn) (values : List ScriptText)
  | equals (column : CardColumn) (value : ScriptText)
  | contains (column : CardColumn) (value : ScriptText)

/-- `scalar`, of a text field. -/
def conditionText (column : CardColumn) (value : ScriptText) : Except CostCardError ScriptText :=
  if (maxLengths.lookup column.fieldName).getD 512 < value.length then .error .invalidQuery
  else .ok value

/-- The operator is one of the field's. -/
def requireOperator (column : CardColumn) (op : String) : Except CostCardError Unit :=
  if (directoryOperators column.fieldName .string).contains op then .ok ()
  else .error .invalidQuery

def conditionIn (column : CardColumn) (values : List ScriptText) :
    Except CostCardError SelectionCondition := do
  requireOperator column "in"
  if maxInValues < values.length then .error .invalidQuery
  else do
    let values ← values.mapM (conditionText column)
    return .oneOf column values

def conditionEq (column : CardColumn) (value : ScriptText) :
    Except CostCardError SelectionCondition := do
  requireOperator column "eq"
  let value ← conditionText column value
  return .equals column value

def conditionContains (column : CardColumn) (value : ScriptText) :
    Except CostCardError SelectionCondition := do
  requireOperator column "contains"
  let value ← conditionText column value
  return .contains column value

-- the normal form of a well-formed text
variable (nfc : String → String)

/-- `normalizeEnterpriseIdentity(name).enterpriseKey` -/
def enterpriseCondition (name : ScriptText) : Except CostCardError SelectionCondition :=
  match enterpriseKeyOf nfc name with
  | none => .error .storeIdentityMissing
  | some key => .ok (.enterpriseKey key)

/-- The condition of a filter, if it is there. -/
def conditionOf {α : Type} (condition : α → Except CostCardError SelectionCondition) :
    Option α → Except CostCardError (List SelectionCondition)
  | none => .ok []
  | some value => do
    let compiled ← condition value
    return [compiled]

/-- `compileCostCardSelection`: the conditions, which are joined by `AND`. -/
def compileCostCardSelection (input : CostCardSelection) :
    Except CostCardError (List SelectionCondition) := do
  let selection ← parseCostCardSelection input
  let enterprise ← conditionOf (enterpriseCondition nfc) selection.enterpriseName
  let ids ← conditionOf (conditionIn .costCardId) selection.costCardIds
  let spus ← conditionOf (conditionIn .spuId) selection.spuIds
  let skus ← conditionOf (conditionIn .skuId) selection.skuIds
  let dish ← conditionOf (conditionEq .dishName) selection.dishName
  let part ← conditionOf (conditionContains .dishName) selection.dishNameContains
  let specification ← conditionOf (conditionEq .specificationName) selection.specificationName
  let category ← conditionOf (conditionEq .baseCategoryName) selection.baseCategoryName
  return enterprise ++ ids ++ spus ++ skus ++ dish ++ part ++ specification ++ category

/-- `CAST(column AS BINARY) = CAST(? AS BINARY)` -/
def sameBytes (column : String) (value : ScriptText) : Bool :=
  toUtf8 (ofString column) = toUtf8 value

/-- A condition on a row. Nothing holds of a column that is null. -/
def SelectionCondition.holds (condition : SelectionCondition) (card : CostCard) : Bool :=
  match condition with
  | .enterpriseKey key => sameBytes card.enterpriseKey key
  | .oneOf column values => (column.value card).any fun s => values.any (sameBytes s)
  | .equals column value => (column.value card).any fun s => sameBytes s value
  | .contains column value => (column.value card).any fun s =>
      SqlLike.like (toUtf8 (ofString s)) (toUtf8 (SqlLike.containsPattern value))

/-! ### Snapshots -/

/-- What a reader may see: the version of the authorization, and the cards it reaches. -/
structure CostCardReadScope where
  authorizationVersion : String
  permits : CostCard → Bool

/-- The database as a snapshot finds it. There is no scope for a reader who is disabled, where
authorization is not enabled, and where the category is missing or has no level. -/
structure CostCardDirectory where
  catalog : List CostCard
  scope : Option CostCardReadScope

structure CostCardDirectorySnapshot where
  authorizationVersion : String
  cards : List CostCard

/-- The rows that the statement finds. -/
def selectedCards (catalog : List CostCard) (scope : CostCardReadScope) (orgId : String)
    (conditions : List SelectionCondition) : List CostCard :=
  catalog.filter fun card => card.orgId = orgId && card.archivedAt.isNone && scope.permits card &&
    conditions.all (·.holds card)

/-- Ids are hexadecimal, so that all collations put them in one order. -/
def sortById (cards : List CostCard) : List CostCard :=
  cards.insertionSort fun a b => stringLe a.id.1 b.id.1

/-- The ids of the selected cards, at most one more than are allowed. -/
def selectedIds (catalog : List CostCard) (scope : CostCardReadScope) (orgId : String)
    (conditions : List SelectionCondition) (maxCards : ℕ) : List CostCardId :=
  ((sortById (selectedCards catalog scope orgId conditions)).map (·.id)).take (maxCards + 1)

/-- The rows of some ids. -/
def rowsOf (catalog : List CostCard) (orgId : String) (ids : List CostCardId) : List CostCard :=
  catalog.filter fun card =>
    card.orgId = orgId && ids.contains card.id && card.archivedAt.isNone

/-- An id of the selection is not among those that were found. -/
def requestedMissing (selection : CostCardSelection) (ids : List CostCardId) : Bool :=
  (selection.costCardIds.getD []).any fun id => !ids.any fun row => ofString row.1 = id

/-- `readSnapshot`, in one transaction: the ids are selected first, and then the rows are read. -/
def readSnapshot (directory : CostCardDirectory) (orgId : String) (raw : CostCardSelection)
    (maxCards : ℕ) : Except CostCardError CostCardDirectorySnapshot :=
  if maxCards < 1 then .error .limitInvalid
  else do
    let selection ← parseCostCardSelection raw
    match directory.scope with
    | none => .error .accessDenied
    | some scope => do
      let conditions ← compileCostCardSelection nfc selection
      let ids := selectedIds directory.catalog scope orgId conditions maxCards
      if maxCards < ids.length then .error .manifestTooLarge
      else if requestedMissing selection ids then .error .accessDenied
      else return ⟨scope.authorizationVersion, sortById (rowsOf directory.catalog orgId ids)⟩

end CostCardCatalog
end SmeDataCenter
