import SmeDataCenter.AuthTables
import SmeDataCenter.BusinessAuthorization
import SmeDataCenter.CanonicalJson
import SmeDataCenter.Fallible

/-!
# The tables of business authorization

Each organization has a state, with the mode of its authorization and the version that counts the
changes; and it has categories, dimensions with their values, stores and enterprise names, grants
of its accounts, and resources with their scopes. A write validates what it is given against these
tables, and references from one to the other are checked by the database.
-/

namespace SmeDataCenter
namespace AuthorizationWrites

/-- The codes of the errors, and what the database refuses by itself. -/
inductive AuthorizationError where
  | authorizationVersionConflict
  | authorizationAdminRequired
  | authorizationTransactionExpired
  | authorizationConfirmationRequired
  | authorizationSuspended
  | authorizationCutoverNotReady
  | authorizationNotEnabled
  | authorizationAccountNotFound
  | authorizationLastAdminRequired
  | invalidAccountRole
  | invalidAccountClearance
  | invalidBusinessGrant
  | enterpriseNameRequired
  | enterpriseNameConflict
  | invalidEnterpriseIdentity
  | partitionStoreIdentityMissing
  | storeNameRequired
  | invalidDimensionId
  | invalidDimensionValueId
  | invalidCategoryConfiguration
  | invalidFixedCategory
  | categoryIdAlreadyExists
  | categoryIdentityImmutable
  | resourceNotFound
  | resourceHistoricalIntentInvalid
  | resourceHistoricalReasonRequired
  | resourceCategoryNotConfigured
  | resourceAttributesNotReady
  | resourceDirectoryRetired
  | resourceCategoryKindMismatch
  | resourceSingleStoreRequired
  | resourceSingleGroupRequired
  | resourceIdentityImmutable
  | sourceFragmentRequired
  | sourceDocumentRequired
  | sourceRequirementsImmutable
  /-- A row that a statement needs is not there. -/
  | recordNotFound
  /-- A unique index refuses a row. -/
  | duplicate
  /-- A foreign key refuses a row. -/
  | reference
  /-- A column is too short for a text. -/
  | tooLong
  /-- The database ends the transaction. -/
  | interrupted
  deriving DecidableEq

/-! ### Rows -/

structure AuthorizationState where
  mode : AuthorizationMode := .legacy
  version : ℕ := 0

structure CategoryRow where
  key : Option String
  name : String
  kind : BusinessCategoryKind
  confidentialityLevel : Option ℤ
  allowGroup : Bool
  allowStore : Bool
  retired : Bool := false
  /-- The dimensions it requires. -/
  dimensions : List String := []

def toBusinessCategoryRule (id : String) (row : CategoryRow) : BusinessCategoryRule where
  id := id
  kind := row.kind
  confidentialityLevel := row.confidentialityLevel
  ownerships := (if row.allowGroup then [.group] else []) ++ if row.allowStore then [.store] else []
  requiredDimensionIds := sortStrings row.dimensions

/-- A dimension, or one of its values. -/
structure DirectoryRow where
  name : String
  retired : Bool := false

structure GrantRow where
  employeeId : String
  grant : BusinessGrant

inductive BusinessResourceKind where
  | storeReview
  | costCard
  | evidence
  | structured
  | quarantineCertificate
  | ledgerPdf
  | sourceFragment
  deriving DecidableEq

structure BusinessResource where
  kind : BusinessResourceKind
  resourceKey : String
  categoryId : String
  valid : Bool
  fileConfidentialityLevel : Option ℤ
  contentVersion : ℕ := 1
  authorizationVersion : ℕ := 1
  documentId : Option String
  sourceDocumentId : Option String
  scopes : List BusinessScopeItem

structure DocumentRow where
  orgId : String
  evidence : Bool
  active : Bool
  archivedAt : Option ℕ
  confidentialityLevel : ℤ
  /-- The field of the source metadata; its other fields stay as they are. -/
  historicalSupplement : Option Json

structure HistoricalSupplementIntent where
  actorEmployeeId : String
  reason : String

/-- A reference of a resource to something retired. -/
inductive RetiredReference where
  | category (id : String)
  | store (enterpriseKey name : String)
  | dimension (id : String)
  | value (dimensionId id : String)

inductive AuditOutcome where
  | succeeded
  | denied
  deriving DecidableEq

structure PermissionOperatorAudit where
  operatorId : String
  requestReference : String
  reason : String

/-- The entries of the general log that a change of authorization writes. -/
inductive LogEntry where
  | historicalSupplementAuthorized (orgId targetId : String) (intent : HistoricalSupplementIntent)
      (retired : List RetiredReference)
  | operatorChange (operator : PermissionOperatorAudit) (orgId requestedByAdminId operation : String)
      (targetId : String) (outcome : AuditOutcome) (authorizationVersion : ℕ)

/-- `business_authorization_audits`. -/
structure BusinessAuthorizationAudit where
  orgId : String
  actorId : String
  action : String
  targetId : String
  outcome : AuditOutcome
  version : ℕ
  /-- The code of a denial. -/
  code : Option String := none

structure AuthorizationTables where
  employees : Table String Employee := ∅
  categories : Table (String × String) CategoryRow := ∅
  dimensions : Table (String × String) DirectoryRow := ∅
  /-- By organization, dimension and value. -/
  dimensionValues : Table (String × String × String) DirectoryRow := ∅
  /-- Whether a store is retired, by organization, enterprise and name. -/
  stores : Table (String × String × String) Bool := ∅
  /-- The names of the enterprises. -/
  enterprises : Table (String × String) String := ∅
  grants : Table (String × String) GrantRow := ∅
  resources : Table (String × String) BusinessResource := ∅
  documents : Table String DocumentRow := ∅
  logs : List LogEntry := []

structure AuthorizationStore where
  tables : AuthorizationTables := {}
  states : Table String AuthorizationState := ∅
  audits : List BusinessAuthorizationAudit := []

namespace AuthorizationTables

/-- The employee of an organization. -/
def employee (tables : AuthorizationTables) (orgId id : String) : Option Employee :=
  (tables.employees.lookup id).filter (·.orgId = orgId)

def document (tables : AuthorizationTables) (orgId id : String) : Option DocumentRow :=
  (tables.documents.lookup id).filter (·.orgId = orgId)

/-- An administrator who is not disabled. -/
def isAdmin (tables : AuthorizationTables) (orgId id : String) : Bool :=
  (tables.employee orgId id).any fun row => row.role = .admin && !row.disabled

/-- The categories of an organization, as the domain decides on them. -/
def rules (tables : AuthorizationTables) (orgId : String) : List BusinessCategoryRule :=
  (tables.categories.findMany fun key _ => key.1 = orgId).map fun row =>
    toBusinessCategoryRule row.1.2 row.2

end AuthorizationTables

/-! ### Fixed categories -/

/-- `FIXED_BUSINESS_CATEGORY_OWNERSHIP`. -/
def fixedBusinessCategoryOwnership : List (String × BusinessOwnership) :=
  [("business", .store), ("dishes", .store), ("in_store_orders", .store),
    ("takeaway_orders", .store), ("vip", .group), ("dish_catalog", .group),
    ("supplier_catalog", .group), ("cost_cards", .group), ("store_reviews", .store),
    ("delivery_ledger", .store), ("quarantine_certificate", .store), ("ledger_pdf", .store)]

def fixedCategoryName (key : String) : String :=
  if key = "in_store_orders" then "店内订单明细"
  else if key = "takeaway_orders" then "平台外卖订单明细"
  else key

/-- One row of a creation that skips duplicates: neither the id nor the key is taken. -/
def createFixedCategory (orgId : String) (newId : String → String)
    (categories : Table (String × String) CategoryRow) (entry : String × BusinessOwnership) :
    Table (String × String) CategoryRow :=
  let row : CategoryRow :=
    { key := some entry.1, name := fixedCategoryName entry.1, kind := .fixed
      confidentialityLevel := none
      allowGroup := entry.2 = .group, allowStore := entry.2 = .store }
  if (categories.findMany fun key row => key.1 = orgId && row.key = some entry.1).length ≠ 0 then
    categories
  else (categories.create (orgId, newId entry.1) row).getD categories

/-- `initializeFixedBusinessCategories`: tenant choices are never overwritten. -/
def initializeFixedBusinessCategories (tables : AuthorizationTables) (orgId : String)
    (newId : String → String) : AuthorizationTables :=
  { tables with
    categories := fixedBusinessCategoryOwnership.foldl (createFixedCategory orgId newId)
      tables.categories }

/-! ### Grants -/

/-- The values of a selection that are listed. -/
def listed : BusinessSelection → List String
  | .all => []
  | .fixed values => values

/-- The rows of a grant have distinct keys. -/
def grantDistinct (grant : BusinessGrant) : Bool :=
  decide grant.categoryIds.Nodup && decide ((grant.stores.map listed).getD []).Nodup &&
    grant.dimensions.entries.all fun entry => decide (listed entry.2).Nodup

/-- What the rows of a grant refer to is there. -/
def grantReferences (tables : AuthorizationTables) (orgId : String) (grant : BusinessGrant) :
    Bool :=
  (grant.categoryIds.all fun id => (tables.categories.lookup (orgId, id)).isSome) &&
  (((grant.stores.map listed).getD []).all fun name =>
    (tables.stores.lookup (orgId, grant.enterpriseKey, name)).isSome) &&
  grant.dimensions.entries.all fun entry =>
    (tables.dimensions.lookup (orgId, entry.1)).isSome &&
      (listed entry.2).all fun value =>
        (tables.dimensionValues.lookup (orgId, entry.1, value)).isSome

def createGrant (orgId employeeId : String) (tables : AuthorizationTables)
    (entry : String × BusinessGrant) : Except AuthorizationError AuthorizationTables :=
  if !grantDistinct entry.2 then .error .duplicate
  else if !grantReferences tables orgId entry.2 then .error .reference
  else match tables.grants.create (orgId, entry.1) { employeeId, grant := entry.2 } with
    | none => .error .duplicate
    | some grants => .ok { tables with grants }

/-- `persistBusinessGrants`: the grants of an account are replaced. -/
def persistBusinessGrants (tables : AuthorizationTables) (orgId employeeId : String)
    (grants : List (String × BusinessGrant)) (categories : List BusinessCategoryRule) :
    Except AuthorizationError AuthorizationTables :=
  if grants.any fun entry => entry.2.orgId ≠ orgId ||
      (validateBusinessGrant entry.2 categories).length ≠ 0 then .error .invalidBusinessGrant
  else
    let cleared := { tables with
      grants := tables.grants.deleteMany fun key row =>
        key.1 = orgId && row.employeeId = employeeId }
    grants.foldlM (createGrant orgId employeeId) cleared

/-! ### Historical supplements -/

/-- `readHistoricalSupplementIntent`. -/
def readHistoricalSupplementIntent :
    Option Json → Except AuthorizationError (Option HistoricalSupplementIntent)
  | none | some .null => .ok none
  | some (.obj fields) =>
    match fields.find? fun field => field.1 = "actorEmployeeId",
      fields.find? fun field => field.1 = "reason" with
    | some (_, .str actorEmployeeId), some (_, .str reason) =>
      .ok (some { actorEmployeeId, reason })
    | _, _ => .error .resourceHistoricalIntentInvalid
  | some _ => .error .resourceHistoricalIntentInvalid

def HistoricalSupplementIntent.json (intent : HistoricalSupplementIntent) : Json :=
  .obj [("actorEmployeeId", .str intent.actorEmployeeId), ("reason", .str intent.reason)]

/-- `validateHistoricalSupplement`, without business dates. -/
def validateHistoricalSupplement (tables : AuthorizationTables) (orgId : String)
    (intent : HistoricalSupplementIntent) : Except AuthorizationError Unit :=
  if trim intent.reason = "" || 2048 < (intent.reason.toList.flatMap codeUnits).length then
    .error .resourceHistoricalReasonRequired
  else if !tables.isAdmin orgId intent.actorEmployeeId then .error .authorizationAdminRequired
  else .ok ()

def bindHistoricalSupplementIntent (tables : AuthorizationTables)
    (orgId actorEmployeeId : String) :
    Option String → Except AuthorizationError (Option HistoricalSupplementIntent)
  | none => .ok none
  | some reason => do
    let intent : HistoricalSupplementIntent := { actorEmployeeId, reason := trim reason }
    validateHistoricalSupplement tables orgId intent
    return some intent

/-! ### Resources -/

/-- A dimension with the value of a scope is in the directory; what of it is retired. -/
def retiredDimension (tables : AuthorizationTables) (orgId : String)
    (entry : Sigma fun _ : String => String) : Except AuthorizationError (List RetiredReference) :=
  match tables.dimensions.lookup (orgId, entry.1),
    tables.dimensionValues.lookup (orgId, entry.1, entry.2) with
  | some dimension, some value => .ok <|
    (if dimension.retired then [.dimension entry.1] else []) ++
      if value.retired then [.value entry.1 entry.2] else []
  | _, _ => .error .resourceAttributesNotReady

/-- What a scope refers to that is retired. -/
def retiredScope (tables : AuthorizationTables) (orgId : String) (category : CategoryRow)
    (scope : BusinessScopeItem) : Except AuthorizationError (List RetiredReference) := do
  if category.dimensions.any fun id => ((scope.dimensions.lookup id).getD "") = "" then
    .error .resourceAttributesNotReady
  else
    let name := scope.storeName.getD ""
    let store : List RetiredReference :=
      if scope.ownership = .store &&
          (tables.stores.lookup (orgId, scope.enterpriseKey, name)).getD false then
        [.store scope.enterpriseKey name]
      else []
    let dimensions ← scope.dimensions.entries.mapM (retiredDimension tables orgId)
    return store ++ dimensions.flatten

/-- `requireCurrentDirectoryEligibility`. -/
def requireCurrentDirectoryEligibility (tables : AuthorizationTables)
    (orgId categoryId targetId : String) (scopes : List BusinessScopeItem)
    (preserveExistingReferences : Bool)
    (historicalSupplement : Option HistoricalSupplementIntent) :
    Except AuthorizationError AuthorizationTables := do
  if let some intent := historicalSupplement then
    validateHistoricalSupplement tables orgId intent
  match tables.categories.lookup (orgId, categoryId) with
  | none => .error .resourceCategoryNotConfigured
  | some category =>
    let references ← scopes.mapM (retiredScope tables orgId category)
    let retired := (if category.retired then [.category categoryId] else []) ++ references.flatten
    if !retired.isEmpty && !preserveExistingReferences && historicalSupplement.isNone then
      .error .resourceDirectoryRetired
    else return match historicalSupplement with
      | none => tables
      | some intent => { tables with
          logs := tables.logs ++ [.historicalSupplementAuthorized orgId targetId intent retired] }

/-- One of `canonicalScopes`, with the dimensions in order. -/
def canonicalScope (scope : BusinessScopeItem) :
    String × BusinessOwnership × Option String × List (String × String) :=
  (scope.enterpriseKey, scope.ownership, scope.storeName,
    (scope.dimensions.entries.map fun entry => (entry.1, entry.2)).insertionSort
      fun a b => stringLe a.1 b.1)

/-- The canonical scopes are equal. -/
def sameScopes (a b : List BusinessScopeItem) : Bool :=
  (a.map canonicalScope).isPerm (b.map canonicalScope)

/-- The scope is the same, and has the dimensions of the other. -/
def enriches (scope candidate : BusinessScopeItem) : Bool :=
  candidate.enterpriseKey = scope.enterpriseKey && candidate.ownership = scope.ownership &&
    candidate.storeName = scope.storeName &&
    scope.dimensions.entries.all fun entry => candidate.dimensions.lookup entry.1 = some entry.2

/-- Match occurrences: no tuple disappears or is duplicated. -/
def matchTuples : List BusinessScopeItem → List BusinessScopeItem → Bool
  | [], _ => true
  | scope :: previous, unmatched =>
    match unmatched.findIdx? (enriches scope) with
    | none => false
    | some index => matchTuples previous (unmatched.eraseIdx index)

def preservesSourceTuples (previous enriched : List BusinessScopeItem) : Bool :=
  previous.length = enriched.length && matchTuples previous enriched

/-- The attributes of a resource that are written. -/
structure ResourceAttributes where
  id : String
  kind : BusinessResourceKind
  resourceKey : String
  categoryId : String
  valid : Bool
  fileConfidentialityLevel : Option ℤ
  documentId : Option String
  sourceDocumentId : Option String
  scopes : List BusinessScopeItem

/-- The kind of a resource is one its category is for. -/
def kindMatches (kind : BusinessResourceKind) (category : CategoryRow) : Bool :=
  decide (kind = .evidence ↔ category.kind = .evidence) &&
    (kind ≠ .quarantineCertificate || category.key = some "quarantine_certificate") &&
    (kind ≠ .ledgerPdf || category.key = some "ledger_pdf") &&
    (kind ≠ .costCard || category.key = some "cost_cards") &&
    (kind ≠ .storeReview || category.key = some "store_reviews") &&
    (category.key ≠ some "store_reviews" || kind = .storeReview)

/-- The scopes and the level are such as the category asks for. -/
def attributesReady (input : ResourceAttributes) (rule : BusinessCategoryRule) : Bool :=
  !input.scopes.isEmpty && input.scopes.all (validateBusinessScope · rule) &&
    match rule.kind with
    | .evidence => input.fileConfidentialityLevel.any isBusinessClearance
    | .fixed => input.fileConfidentialityLevel.isNone

/-- The only scope is one of the ownership. -/
def single (ownership : BusinessOwnership) (scopes : List BusinessScopeItem) : Bool :=
  match scopes with
  | [scope] => scope.ownership = ownership
  | _ => false

/-- What of a resource never changes. -/
def sameIdentity (row : BusinessResource) (input : ResourceAttributes) : Bool :=
  row.kind = input.kind && row.resourceKey = input.resourceKey &&
    row.documentId = input.documentId && row.sourceDocumentId = input.sourceDocumentId

/-- The checks of `persistResourceAttributes` on its input and on the row as it is. -/
def checkResource (input : ResourceAttributes) (category : CategoryRow)
    (before : Option BusinessResource) : Except AuthorizationError Unit :=
  if !kindMatches input.kind category then .error .resourceCategoryKindMismatch
  else if !attributesReady input (toBusinessCategoryRule input.categoryId category) then
    .error .resourceAttributesNotReady
  else if [.quarantineCertificate, .ledgerPdf, .storeReview].contains input.kind &&
      !single .store input.scopes then .error .resourceSingleStoreRequired
  else if input.kind = .storeReview && input.documentId.isSome then
    .error .resourceIdentityImmutable
  else if input.kind = .costCard && (!single .group input.scopes || input.documentId.isSome) then
    .error .resourceSingleGroupRequired
  else if before.any fun row => !sameIdentity row input then .error .resourceIdentityImmutable
  else if input.sourceDocumentId.any (· ≠ "") && input.kind ≠ .sourceFragment then
    .error .sourceFragmentRequired
  else if input.kind = .sourceFragment && !input.sourceDocumentId.any (· ≠ "") then
    .error .sourceDocumentRequired
  else if before.any fun row => input.kind = .sourceFragment &&
      (row.categoryId ≠ input.categoryId || row.valid ≠ input.valid ||
        !preservesSourceTuples row.scopes input.scopes) then .error .sourceRequirementsImmutable
  else .ok ()

/-- Enrichment of a source, or of evidence, leaves its content as it is. -/
def contentChanged (row : BusinessResource) (input : ResourceAttributes) : Bool :=
  row.valid ≠ input.valid ||
    (input.kind ≠ .sourceFragment && input.kind ≠ .evidence && !sameScopes row.scopes input.scopes)

/-- The row after the write. -/
def BusinessResource.updated (row : BusinessResource) (input : ResourceAttributes) :
    BusinessResource :=
  { row with
    categoryId := input.categoryId, valid := input.valid
    fileConfidentialityLevel := input.fileConfidentialityLevel
    authorizationVersion := row.authorizationVersion + 1
    contentVersion := if contentChanged row input then row.contentVersion + 1 else row.contentVersion
    scopes := input.scopes }

def ResourceAttributes.row (input : ResourceAttributes) : BusinessResource :=
  { kind := input.kind, resourceKey := input.resourceKey, categoryId := input.categoryId
    valid := input.valid, fileConfidentialityLevel := input.fileConfidentialityLevel
    documentId := input.documentId, sourceDocumentId := input.sourceDocumentId
    scopes := input.scopes }

/-- The documents and the stores that a resource refers to are there. -/
def resourceReferences (tables : AuthorizationTables) (orgId : String)
    (input : ResourceAttributes) : Bool :=
  (input.documentId.all fun id => (tables.document orgId id).isSome) &&
  (input.sourceDocumentId.all fun id => (tables.document orgId id).isSome) &&
  input.scopes.all fun scope => scope.storeName.all fun name =>
    (tables.stores.lookup (orgId, scope.enterpriseKey, name)).isSome

/-- The identity of a resource is free, or its own. -/
def resourceKeyFree (tables : AuthorizationTables) (orgId : String) (input : ResourceAttributes) :
    Bool :=
  (tables.resources.findMany fun key row => key.1 = orgId && key.2 ≠ input.id &&
    row.kind = input.kind && row.resourceKey = input.resourceKey).isEmpty

/-- `persistResourceAttributes`. -/
def persistResourceAttributes (tables : AuthorizationTables) (orgId : String)
    (input : ResourceAttributes) (publication : Bool)
    (historicalSupplement : Option HistoricalSupplementIntent) :
    Except AuthorizationError AuthorizationTables :=
  match tables.categories.lookup (orgId, input.categoryId) with
  | none => .error .recordNotFound
  | some category => do
    let before := tables.resources.lookup (orgId, input.id)
    checkResource input category before
    let preserve := !publication && before.any fun row => row.categoryId = input.categoryId &&
      row.valid = input.valid && sameScopes row.scopes input.scopes
    let tables ← requireCurrentDirectoryEligibility tables orgId input.categoryId input.id
      input.scopes preserve historicalSupplement
    if !resourceKeyFree tables orgId input then .error .duplicate
    else if !resourceReferences tables orgId input then .error .reference
    else return { tables with
      resources := match before with
        | none => tables.resources.insert (orgId, input.id) input.row
        | some row => tables.resources.insert (orgId, input.id) (row.updated input) }

end AuthorizationWrites
end SmeDataCenter
