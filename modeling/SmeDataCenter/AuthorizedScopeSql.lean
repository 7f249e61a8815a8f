import SmeDataCenter.BusinessAuthorizationRecords
import SmeDataCenter.SqlBinding

/-!
# The access rule as a SQL predicate

`compileAuthorizedScope` turns a snapshot into a predicate on `business_resources AS r` and the
parameters of its placeholders. Every piece is a computation that pushes its parameters while
it is written, in the order of the source, and beside each stands the predicate that piece is
once its own parameters are filled in. `compileAuthorizedScope_bind` says that binding the
whole parameter list by position gives exactly that predicate.
-/

namespace SmeDataCenter
namespace AuthorizedScope

open Sql

/-! ### The compiler -/

/-- `CAST(column AS BINARY) = CAST(? AS BINARY)`. -/
def exact (owner column value : String) : Binder (Condition Unit) := do
  return .binaryEq (.column owner column) (← push (.text value))

/-- The rows of `business_scope_dimensions AS d` that belong to the scope `s`. -/
def ofScope {π : Type} (conditions : List (Condition π)) : Condition π :=
  .all ([.eq (.column "d" "org_id") (.column "s" "org_id"),
    .eq (.column "d" "resource_id") (.column "s" "resource_id"),
    .eq (.column "d" "scope_id") (.column "s" "id")] ++ conditions)

/-- The values of a fixed selection, joined by `OR`. -/
def fixedSql (owner column : String) :
    Option BusinessSelection → Binder (List (Condition Unit))
  | some (.fixed values) => do return [.any (← values.mapM (exact owner column))]
  | _ => return []

/-- One dimension a grant selects on. A relevant grant has a selection for every required
dimension, since it has passed the validator: the source reads `grant.dimensions[id]!`. -/
def selectionSql (grant : BusinessGrant) (id : String) : Binder (Condition Unit) := do
  let dimension ← exact "d" "dimension_id" id
  let values ← fixedSql "d" "value_id" (grant.dimensions.lookup id)
  return .exists "business_scope_dimensions" "d" (ofScope (dimension :: values))

def grantSql (grant : BusinessGrant) (category : BusinessCategoryRule) :
    Binder (Condition Unit) := do
  let enterprise ← exact "s" "enterprise_key" grant.enterpriseKey
  let ownership ← exact "s" "ownership" grant.ownership.text
  let stores ← fixedSql "s" "store_name" (if grant.ownership = .store then grant.stores else none)
  let dimensions ← category.requiredDimensionIds.mapM (selectionSql grant)
  return .all (enterprise :: ownership :: (stores ++ dimensions))

/-- A store scope has a store name that is not blank, a group scope has none. -/
def storeNameShape {π : Type} (pattern : Operand π) : Condition π :=
  .or
    (.and (.eq (.column "s" "ownership") (.literal (.text "group")))
      (.isNull (.column "s" "store_name")))
    (.and (.eq (.column "s" "ownership") (.literal (.text "store")))
      (.and (.isNotNull (.column "s" "store_name"))
        (.regexpLike (.column "s" "store_name") pattern)))

/-- A required dimension has a value. -/
def dimensionShape (id : String) : Binder (Condition Unit) := do
  let dimension ← exact "d" "dimension_id" id
  return .exists "business_scope_dimensions" "d"
    (ofScope [dimension, .charLengthGt (.column "d" "value_id") 0])

def shapeSql (category : BusinessCategoryRule) : Binder (Condition Unit) := do
  let ownerships ← category.ownerships.mapM fun ownership =>
    exact "s" "ownership" ownership.text
  let pattern ← push (.text "\\S")
  let count ← push (.int category.requiredDimensionIds.length)
  let dimensions ← category.requiredDimensionIds.mapM dimensionShape
  return .all (.any ownerships :: storeNameShape pattern ::
    .charLengthGt (.column "s" "enterprise_key") 0 ::
    .countEq "business_scope_dimensions" "d" (ofScope []) count :: dimensions)

def clearanceSql (snapshot : AuthorizationSnapshot) (category : BusinessCategoryRule) :
    Binder (Condition Unit) :=
  match category.kind with
  | .evidence => do
    return .between (.column "r" "file_confidentiality_level") (.literal (.int 0))
      (← push (.int snapshot.clearance))
  | .fixed => return .always

/-- The scopes of the resource `r` that meet a condition. -/
def someScope {π : Type} (conditions : List (Condition π)) : Condition π :=
  .exists "business_resource_scopes" "s"
    (.all ([.eq (.column "s" "org_id") (.column "r" "org_id"),
      .eq (.column "s" "resource_id") (.column "r" "id")] ++ conditions))

/-- A fixed category above the clearance, or without a usable level, is not readable. -/
def outOfReach (snapshot : AuthorizationSnapshot) (category : BusinessCategoryRule) : Bool :=
  match category.kind, category.confidentialityLevel with
  | .evidence, _ => false
  | .fixed, none => true
  | .fixed, some level => !isBusinessClearance level || decide (snapshot.clearance < level)

def relevantGrants (snapshot : AuthorizationSnapshot) (category : BusinessCategoryRule) :
    List BusinessGrant :=
  snapshot.validGrants.filter fun grant => grant.categoryIds.contains category.id

def categorySql (snapshot : AuthorizationSnapshot) (category : BusinessCategoryRule) :
    Binder (List (Condition Unit)) :=
  if outOfReach snapshot category then return []
  else if (relevantGrants snapshot category).length = 0 then return []
  else do
    let categoryCondition ← exact "r" "category_id" category.id
    let clearance ← clearanceSql snapshot category
    let shape ← shapeSql category
    let matching ← (relevantGrants snapshot category).mapM fun grant => grantSql grant category
    return [.all [categoryCondition, clearance,
      .not (someScope [.or (.not shape) (.not (.any matching))])]]

/-- The compiled predicate and its parameters. -/
structure AuthorizedScopeSql where
  sql : Condition Unit
  params : List Value

def authorizedSql (snapshot : AuthorizationSnapshot) : Binder (Condition Unit) :=
  if snapshot.disabled || snapshot.mode ≠ .enabled || !isBusinessClearance snapshot.clearance then
    return .never
  else do
    let organization ← exact "r" "org_id" snapshot.orgId
    let categories ← snapshot.categories.flatMapM (categorySql snapshot)
    return .all [organization, .eq (.column "r" "valid") (.literal (.int 1)), someScope [],
      .any categories]

def compileAuthorizedScope (snapshot : AuthorizationSnapshot) : AuthorizedScopeSql :=
  let (sql, params) := authorizedSql snapshot []
  { sql, params }

/-! ### The predicate it stands for -/

/-- A column that is a given text. -/
def isText (owner column value : String) : Condition Value :=
  .binaryEq (.column owner column) (.placeholder (.text value))

def fixedConditions (owner column : String) :
    Option BusinessSelection → List (Condition Value)
  | some (.fixed values) => [.any (values.map (isText owner column))]
  | _ => []

def selectionCondition (grant : BusinessGrant) (id : String) : Condition Value :=
  .exists "business_scope_dimensions" "d" (ofScope (isText "d" "dimension_id" id ::
    fixedConditions "d" "value_id" (grant.dimensions.lookup id)))

def grantCondition (grant : BusinessGrant) (category : BusinessCategoryRule) :
    Condition Value :=
  .all (isText "s" "enterprise_key" grant.enterpriseKey ::
    isText "s" "ownership" grant.ownership.text ::
    (fixedConditions "s" "store_name" (if grant.ownership = .store then grant.stores else none) ++
      category.requiredDimensionIds.map (selectionCondition grant)))

def dimensionCondition (id : String) : Condition Value :=
  .exists "business_scope_dimensions" "d"
    (ofScope [isText "d" "dimension_id" id, .charLengthGt (.column "d" "value_id") 0])

def shapeCondition (category : BusinessCategoryRule) : Condition Value :=
  .all (.any (category.ownerships.map fun ownership => isText "s" "ownership" ownership.text) ::
    storeNameShape (.placeholder (.text "\\S")) ::
    .charLengthGt (.column "s" "enterprise_key") 0 ::
    .countEq "business_scope_dimensions" "d" (ofScope [])
      (.placeholder (.int category.requiredDimensionIds.length)) ::
    category.requiredDimensionIds.map dimensionCondition)

def clearanceCondition (snapshot : AuthorizationSnapshot) (category : BusinessCategoryRule) :
    Condition Value :=
  match category.kind with
  | .evidence => .between (.column "r" "file_confidentiality_level") (.literal (.int 0))
      (.placeholder (.int snapshot.clearance))
  | .fixed => .always

def categoryConditions (snapshot : AuthorizationSnapshot) (category : BusinessCategoryRule) :
    List (Condition Value) :=
  if outOfReach snapshot category then []
  else if (relevantGrants snapshot category).length = 0 then []
  else
    [.all [isText "r" "category_id" category.id, clearanceCondition snapshot category,
      .not (someScope [.or (.not (shapeCondition category))
        (.not (.any ((relevantGrants snapshot category).map fun grant =>
          grantCondition grant category)))])]]

def authorizedCondition (snapshot : AuthorizationSnapshot) : Condition Value :=
  if snapshot.disabled || snapshot.mode ≠ .enabled || !isBusinessClearance snapshot.clearance then
    .never
  else
    .all [isText "r" "org_id" snapshot.orgId, .eq (.column "r" "valid") (.literal (.int 1)),
      someScope [], .any (snapshot.categories.flatMap (categoryConditions snapshot))]

/-! ### Binding the parameters -/

lemma exact_compiles (owner column value : String) :
    Compiles (exact owner column value) (isText owner column value) :=
  .push (.binaryEq (.column owner column) (.placeholder _))

lemma fixedSql_compiles (owner column : String) (selection : Option BusinessSelection) :
    CompilesAll (fixedSql owner column selection) (fixedConditions owner column selection) := by
  unfold fixedSql fixedConditions
  split
  · exact .singleton
      ((CompilesAll.mapM fun value _ => exact_compiles owner column value).compiles TakesList.any)
  · exact .pure .nil

lemma eq_takes {o c o' c' : String} :
    Condition.Takes (.eq (.column o c) (.column o' c')) [] (.eq (.column o c) (.column o' c')) :=
  .eq (.column o c) (.column o' c')

lemma ofScope_takes {ts : List (Condition Unit)} {ps : List Value} {bs : List (Condition Value)}
    (h : TakesList ts ps bs) : (ofScope ts).Takes ps (ofScope bs) :=
  (TakesList.append (.cons eq_takes (.cons eq_takes (.singleton eq_takes))) h).all

lemma someScope_takes {ts : List (Condition Unit)} {ps : List Value}
    {bs : List (Condition Value)} (h : TakesList ts ps bs) :
    (someScope ts).Takes ps (someScope bs) :=
  .exists (TakesList.append (.cons eq_takes (.singleton eq_takes)) h).all _ _

lemma selectionSql_compiles (grant : BusinessGrant) (id : String) :
    Compiles (selectionSql grant id) (selectionCondition grant id) :=
  (CompilesAll.cons (exact_compiles "d" "dimension_id" id) (fixedSql_compiles _ _ _)).compiles
    fun h => .exists (ofScope_takes h) _ _

lemma grantSql_compiles (grant : BusinessGrant) (category : BusinessCategoryRule) :
    Compiles (grantSql grant category) (grantCondition grant category) :=
  (CompilesAll.cons (exact_compiles "s" "enterprise_key" _) (.cons
    (exact_compiles "s" "ownership" _) (.append (fixedSql_compiles _ _ _) (.mapM fun id _ =>
      selectionSql_compiles grant id)))).compiles TakesList.all

lemma dimensionShape_compiles (id : String) :
    Compiles (dimensionShape id) (dimensionCondition id) :=
  (CompilesAll.cons (exact_compiles "d" "dimension_id" id)
    (.pure (.singleton (.charLengthGt (.column _ _) 0)))).compiles
    fun h => .exists (ofScope_takes h) _ _

lemma storeNameShape_takes (v : Value) :
    (storeNameShape (.placeholder ())).Takes [v] (storeNameShape (.placeholder v)) :=
  .or (.and (.eq (.column _ _) (.literal _)) (.isNull (.column _ _)))
    (.and (.eq (.column _ _) (.literal _)) (.and (.not (.isNull (.column _ _)))
      (.regexpLike (.column _ _) (.placeholder v))))

lemma count_takes (v : Value) : Condition.Takes
    (.countEq "business_scope_dimensions" "d" (ofScope []) (.placeholder ())) [v]
    (.countEq "business_scope_dimensions" "d" (ofScope []) (.placeholder v)) :=
  .countEq (ofScope_takes .nil) (.placeholder v) _ _

lemma shapeSql_compiles (category : BusinessCategoryRule) :
    Compiles (shapeSql category) (shapeCondition category) :=
  (CompilesAll.cons ((CompilesAll.mapM fun _ _ => exact_compiles "s" "ownership" _).compiles TakesList.any)
    (.cons (.push (storeNameShape_takes _)) (.cons (.pure (.charLengthGt (.column _ _) 0))
      (.cons (.push (count_takes _)) (.mapM fun id _ => dimensionShape_compiles id))))).compiles
    TakesList.all

lemma clearanceSql_compiles (snapshot : AuthorizationSnapshot)
    (category : BusinessCategoryRule) :
    Compiles (clearanceSql snapshot category) (clearanceCondition snapshot category) := by
  unfold clearanceSql clearanceCondition
  split
  · exact .push (.between (.column _ _) (.literal _) (.placeholder _))
  · exact .pure .always

lemma categorySql_compiles (snapshot : AuthorizationSnapshot)
    (category : BusinessCategoryRule) :
    CompilesAll (categorySql snapshot category) (categoryConditions snapshot category) := by
  unfold categorySql categoryConditions
  split_ifs
  · exact .pure .nil
  · exact .pure .nil
  have hscopes : Compiles _ (Condition.not (someScope [.or (.not (shapeCondition category))
      (.not (.any ((relevantGrants snapshot category).map fun grant =>
        grantCondition grant category)))])) :=
    (shapeSql_compiles category).map₂
      ((CompilesAll.mapM fun grant _ => grantSql_compiles grant category).compiles TakesList.any)
      fun hs hm => .not (someScope_takes (.singleton (.or (.not hs) (.not hm))))
  exact .singleton ((CompilesAll.cons (exact_compiles "r" "category_id" _)
    (.cons (clearanceSql_compiles snapshot category) (.singleton hscopes))).compiles TakesList.all)

lemma authorizedSql_compiles (snapshot : AuthorizationSnapshot) :
    Compiles (authorizedSql snapshot) (authorizedCondition snapshot) := by
  unfold authorizedSql authorizedCondition
  split_ifs
  · exact .pure .never
  have hcategories :=
    (CompilesAll.flatMapM fun category (_ : category ∈ snapshot.categories) =>
      categorySql_compiles snapshot category).compiles TakesList.any
  exact (CompilesAll.cons (exact_compiles "r" "org_id" _)
    (.cons (.pure (.eq (.column _ _) (.literal _))) (.cons (.pure (someScope_takes .nil))
      (.singleton hcategories)))).compiles TakesList.all

/-- **Positional binding**: the parameter list fills the compiled text completely, and gives
the predicate it stands for. -/
theorem compileAuthorizedScope_bind (snapshot : AuthorizationSnapshot) :
    (compileAuthorizedScope snapshot).sql.bind (compileAuthorizedScope snapshot).params =
      some (authorizedCondition snapshot) := by
  obtain ⟨ps, hps, ht⟩ := authorizedSql_compiles snapshot []
  have hparams : (compileAuthorizedScope snapshot).params = ps := hps
  rw [hparams]
  exact ht.bind

end AuthorizedScope
end SmeDataCenter
