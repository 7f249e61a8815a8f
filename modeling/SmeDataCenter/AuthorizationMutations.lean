import SmeDataCenter.AuthorizationTables

/-!
# Changes of business authorization

An administrator changes the authorization of the organization with the version that was read
before. The change is one transaction: the version is moved on if it is still the same, the
administrator is checked, the operation is done, and the audit is written. An operator of the
command line is named in the audits of what is changed that way.
-/

namespace SmeDataCenter
namespace AuthorizationWrites

/-- `AuthorizationWriteContext`. -/
structure AuthorizationWriteContext where
  orgId : String
  actorId : String
  expectedVersion : String

/-- The number that `/^(0|[1-9]\d*)$/` reads. -/
def parseVersion (text : String) : Option ℕ :=
  match text.toList with
  | [] => none
  | ['0'] => some 0
  | digits => if digits.head? ≠ some '0' && digits.all Char.isDigit then
      some (digits.foldl (fun n c => 10 * n + (c.toNat - '0'.toNat)) 0)
    else none

namespace AuthorizationStore

/-- The version of an organization; without a state it is zero. -/
def version (s : AuthorizationStore) (orgId : String) : ℕ :=
  ((s.states.lookup orgId).map (·.version)).getD 0

end AuthorizationStore

/-! ### Audits -/

/-- The columns of an audit are long enough. -/
def BusinessAuthorizationAudit.fits (audit : BusinessAuthorizationAudit) : Bool :=
  audit.action.length ≤ 64 && audit.targetId.length ≤ 255

def auditAction (operator : Option PermissionOperatorAudit) (action : String) : String :=
  if operator.isSome then "operator." ++ action else action

/-- `writeAudit`. The log says which operator made a change. -/
def writeAudit (s : AuthorizationStore) (operator : Option PermissionOperatorAudit)
    (data : BusinessAuthorizationAudit) : Except AuthorizationError AuthorizationStore :=
  let audit := { data with action := auditAction operator data.action }
  if !audit.fits then .error .tooLong
  else .ok { s with
    audits := s.audits ++ [audit]
    tables := match operator with
      | none => s.tables
      | some operator => { s.tables with
          logs := s.tables.logs ++ [.operatorChange operator data.orgId data.actorId data.action
            data.targetId data.outcome data.version] } }

/-! ### Operations on the tables -/

section

variable (tables : AuthorizationTables) (context : AuthorizationWriteContext)

def configureAccountRole (employeeId role : String) (expired : Bool) :
    Except AuthorizationError AuthorizationTables :=
  match (if role = "admin" then some EmployeeRole.admin
      else if role = "employee" then some .employee else none) with
  | none => .error .invalidAccountRole
  | some role =>
    match tables.employee context.orgId employeeId with
    | none => .error .authorizationAccountNotFound
    | some before =>
      if before.role = .admin && !before.disabled && role = .employee &&
          (tables.employees.findMany fun id row => row.orgId = context.orgId &&
            row.role = .admin && !row.disabled && id ≠ employeeId).isEmpty then
        .error .authorizationLastAdminRequired
      else if expired then .error .authorizationTransactionExpired
      else .ok { tables with
        employees := tables.employees.update employeeId fun row => { row with role } }

/-- The enterprises that a grant of store reviews is for. -/
def reviewEnterprises (grants : List (String × BusinessGrant)) : List String :=
  match (tables.categories.findMany fun key row =>
      key.1 = context.orgId && row.key = some "store_reviews").head? with
  | none => []
  | some (key, _) => ((grants.filter fun entry => entry.2.categoryIds.contains key.2).map
      (·.2.enterpriseKey)).eraseDups

def configureAccount (employeeId : String) (clearance : ℤ)
    (grants : List (String × BusinessGrant)) : Except AuthorizationError AuthorizationTables :=
  if !isBusinessClearance clearance then .error .invalidAccountClearance
  else match tables.employee context.orgId employeeId with
    | none => .error .authorizationAccountNotFound
    | some _ =>
      if (reviewEnterprises tables context grants).any fun key =>
          (tables.enterprises.lookup (context.orgId, key)).isNone then
        .error .enterpriseNameRequired
      else do
        let tables ← persistBusinessGrants tables context.orgId employeeId grants
          (tables.rules context.orgId)
        return { tables with
          employees := tables.employees.update employeeId fun row =>
            { row with clearance := clearance.toNat } }

/-- What is asked of the document of some evidence. -/
structure EvidenceAttributes where
  documentId : String
  categoryId : String
  fileConfidentialityLevel : ℤ
  scopes : List BusinessScopeItem
  historicalSupplementReason : Option String

/-- A pending approval is kept only while the references are the same. -/
def retainedIntent (document : DocumentRow) (existing : Option BusinessResource)
    (input : EvidenceAttributes) (valid : Bool)
    (historicalSupplement : Option HistoricalSupplementIntent) :
    Except AuthorizationError (Option HistoricalSupplementIntent) :=
  match historicalSupplement with
  | some intent => .ok (some intent)
  | none =>
    if existing.any fun row => row.categoryId = input.categoryId && row.valid = valid &&
        sameScopes row.scopes input.scopes then
      readHistoricalSupplementIntent document.historicalSupplement
    else .ok none

/-- `newId` is the id of a resource that is not there yet. -/
def configureEvidenceDocument (newId : String) (input : EvidenceAttributes) :
    Except AuthorizationError AuthorizationTables :=
  match (tables.document context.orgId input.documentId).filter (·.evidence) with
  | none => .error .resourceNotFound
  | some document => do
    let existing := (tables.resources.findMany fun key row => key.1 = context.orgId &&
      row.documentId = some input.documentId && row.kind = .evidence).head?
    let historicalSupplement ← bindHistoricalSupplementIntent tables context.orgId context.actorId
      input.historicalSupplementReason
    let valid := document.active && document.archivedAt.isNone
    let retained ← retainedIntent document (existing.map (·.2)) input valid historicalSupplement
    let tables := { tables with
      documents := tables.documents.update input.documentId fun row =>
        { row with
          confidentialityLevel := input.fileConfidentialityLevel
          historicalSupplement := some ((retained.map (·.json)).getD .null) } }
    persistResourceAttributes tables context.orgId
      { id := (existing.map (·.1.2)).getD newId, kind := .evidence, resourceKey := input.documentId
        categoryId := input.categoryId, valid
        fileConfidentialityLevel := some input.fileConfidentialityLevel
        documentId := some input.documentId, sourceDocumentId := none, scopes := input.scopes }
      false historicalSupplement

/-- What is asked of a dimension, or of one of its values. -/
structure DirectoryWrite where
  id : String
  name : String
  retired : Option Bool
  createOnly : Bool
  updateOnly : Bool

/-- The row is made, or written over. -/
def DirectoryWrite.row (input : DirectoryWrite) (before : Option DirectoryRow) : DirectoryRow :=
  { name := input.name
    retired := input.retired.getD ((before.map (·.retired)).getD false) }

/-- The row is there, or is not, as asked. -/
def DirectoryWrite.refused (input : DirectoryWrite) (before : Option DirectoryRow) : Bool :=
  (input.createOnly && before.isSome) || (input.updateOnly && before.isNone)

def defineDimension (input : DirectoryWrite) : Except AuthorizationError AuthorizationTables :=
  let before := tables.dimensions.lookup (context.orgId, input.id)
  if input.refused before then .error .invalidDimensionId
  else .ok { tables with
    dimensions := tables.dimensions.insert (context.orgId, input.id) (input.row before) }

def defineDimensionValue (dimensionId : String) (input : DirectoryWrite) :
    Except AuthorizationError AuthorizationTables :=
  let before := tables.dimensionValues.lookup (context.orgId, dimensionId, input.id)
  if input.refused before then .error .invalidDimensionValueId
  else if (tables.dimensions.lookup (context.orgId, dimensionId)).isNone then .error .reference
  else .ok { tables with
    dimensionValues := tables.dimensionValues.insert (context.orgId, dimensionId, input.id)
      (input.row before) }

/-- `CategoryWrite`. -/
structure CategoryWrite where
  id : String
  key : Option String
  name : String
  kind : BusinessCategoryKind
  confidentialityLevel : Option ℤ
  ownerships : List BusinessOwnership
  requiredDimensionIds : List String
  retired : Option Bool
  createOnly : Bool

def CategoryWrite.valid (input : CategoryWrite) : Bool :=
  !input.ownerships.isEmpty && decide input.requiredDimensionIds.Nodup &&
    match input.kind with
    | .fixed => input.key.any (· ≠ "") && input.confidentialityLevel.all isBusinessClearance
    | .evidence => input.key.isNone && input.confidentialityLevel.isNone

/-- The key of a fixed category is a registered one, with its ownership. -/
def CategoryWrite.registered (input : CategoryWrite) : Bool :=
  input.kind ≠ .fixed || input.key.any fun key =>
    fixedBusinessCategoryOwnership.any fun entry =>
      entry.1 = key && input.ownerships = [entry.2]

def CategoryWrite.row (input : CategoryWrite) (before : Option CategoryRow) : CategoryRow :=
  { key := input.key, name := input.name, kind := input.kind
    confidentialityLevel := input.confidentialityLevel
    allowGroup := input.ownerships.contains .group, allowStore := input.ownerships.contains .store
    retired := input.retired.getD ((before.map (·.retired)).getD false)
    dimensions := input.requiredDimensionIds }

def configureCategory (input : CategoryWrite) : Except AuthorizationError AuthorizationTables :=
  if !input.valid then .error .invalidCategoryConfiguration
  else if !input.registered then .error .invalidFixedCategory
  else
    let before := tables.categories.lookup (context.orgId, input.id)
    if input.createOnly && before.isSome then .error .categoryIdAlreadyExists
    else if before.any fun row => row.kind ≠ input.kind || row.key ≠ input.key then
      .error .categoryIdentityImmutable
    else if input.key.isSome && !(tables.categories.findMany fun key row =>
        key.1 = context.orgId && key.2 ≠ input.id && row.key = input.key).isEmpty then
      .error .duplicate
    else if input.requiredDimensionIds.any fun id =>
        (tables.dimensions.lookup (context.orgId, id)).isNone then .error .reference
    else .ok { tables with
      categories := tables.categories.insert (context.orgId, input.id) (input.row before) }

/-! ### Enterprises and stores -/

-- Unicode normalization
variable (nfc : String → String)

/-- Runs of white space become one blank; `blank` when one has been written. -/
def collapse (blank : Bool) : List Char → List Char
  | [] => []
  | c :: cs =>
    if !isTrimmed c then c :: collapse false cs
    else if blank then collapse true cs
    else ' ' :: collapse true cs

def normalizeIdentityText (value : String) : String :=
  String.ofList (collapse false (trim (nfc value)).toList)

def asciiLowercase (value : String) : String := String.ofList (value.toList.map Char.toLower)

/-- `normalizeEnterpriseIdentity`: the key and the name. -/
def normalizeEnterpriseIdentity (value : String) :
    Except AuthorizationError (String × String) :=
  let enterpriseName := normalizeIdentityText nfc value
  if enterpriseName = "" then .error .partitionStoreIdentityMissing
  else .ok (asciiLowercase enterpriseName, enterpriseName)

def unitLength (s : String) : ℕ := (s.toList.flatMap codeUnits).length

/-- The identity that a name gives, which is the one of the key that came with it. -/
def namedIdentity (enterpriseKey : Option String) :
    Option String → Except AuthorizationError (Option (String × String))
  | none => .ok none
  | some enterpriseName => do
    if trim enterpriseName = "" || 255 < unitLength enterpriseName then
      .error .invalidEnterpriseIdentity
    else
      let identity ← normalizeEnterpriseIdentity nfc enterpriseName
      if 128 < unitLength identity.1 then .error .invalidEnterpriseIdentity
      else if enterpriseKey.any (· ≠ identity.1) then .error .enterpriseNameConflict
      else return some identity

/-- `saveEnterpriseIdentity`: the key, and whether the name was saved just now. -/
def saveEnterpriseIdentity (enterpriseKey enterpriseName : Option String) :
    Except AuthorizationError (AuthorizationTables × String × Bool) := do
  let identity ← namedIdentity nfc enterpriseKey enterpriseName
  let key := ((identity.map (·.1)) <|> enterpriseKey).getD ""
  if key = "" then .error .enterpriseNameRequired
  else match tables.enterprises.lookup (context.orgId, key) with
    | some before =>
      if identity.any fun identity => before ≠ identity.2 then .error .enterpriseNameConflict
      else .ok (tables, key, false)
    | none =>
      match identity with
      | none => .error .enterpriseNameRequired
      | some identity =>
        .ok ({ tables with
          enterprises := tables.enterprises.insert (context.orgId, key) identity.2 }, key, true)

structure StoreWrite where
  enterpriseKey : Option String
  enterpriseName : Option String
  name : String
  retired : Option Bool

end

/-- The audit of a name that was saved with a store. -/
def declareSaved (s : AuthorizationStore) (context : AuthorizationWriteContext)
    (operator : Option PermissionOperatorAudit) (version : ℕ) (saved : Bool) :
    Except AuthorizationError AuthorizationStore :=
  if saved then
    writeAudit s operator
      { orgId := context.orgId, actorId := context.actorId
        action := "enterprise.identity.declare", targetId := "business-enterprise"
        outcome := .succeeded, version }
  else .ok s

/-- `putStore`. A name that is saved with the store has an audit of its own. -/
def putStore (nfc : String → String) (s : AuthorizationStore) (context : AuthorizationWriteContext)
    (operator : Option PermissionOperatorAudit) (version : ℕ) (input : StoreWrite) :
    Except AuthorizationError AuthorizationStore :=
  if trim input.name = "" then .error .storeNameRequired
  else do
    let (tables, enterpriseKey, saved) ← saveEnterpriseIdentity s.tables context nfc
      input.enterpriseKey input.enterpriseName
    let s ← declareSaved { s with tables } context operator version saved
    let key := (context.orgId, enterpriseKey, input.name)
    let before := s.tables.stores.lookup key
    return { s with
      tables := { s.tables with
        stores := s.tables.stores.insert key (input.retired.getD (before.getD false)) } }

/-! ### The modes -/

/-- `activateAuthorizationCutover`. `ready` is what the inspection says, if it ends. -/
def activateAuthorizationCutover (s : AuthorizationStore) (context : AuthorizationWriteContext)
    (confirm : Bool) (ready : Option Bool) (expired : Bool) :
    Except AuthorizationError AuthorizationStore :=
  match s.states.lookup context.orgId with
  | none => .error .recordNotFound
  | some before =>
    if !confirm then .error .authorizationConfirmationRequired
    else if before.mode = .suspended then .error .authorizationSuspended
    else match ready with
      | none => .error .interrupted
      | some ready =>
        if !ready then .error .authorizationCutoverNotReady
        else if expired then .error .authorizationTransactionExpired
        else .ok { s with
          states := s.states.update context.orgId fun row => { row with mode := .enabled } }

def suspendAuthorizationReads (s : AuthorizationStore) (context : AuthorizationWriteContext)
    (confirm : Bool) : Except AuthorizationError AuthorizationStore :=
  if !confirm then .error .authorizationConfirmationRequired
  else match s.states.lookup context.orgId with
    | none => .error .recordNotFound
    | some before =>
      if before.mode ≠ .enabled && before.mode ≠ .suspended then .error .authorizationNotEnabled
      else .ok { s with
        states := s.states.update context.orgId fun row => { row with mode := .suspended } }

/-! ### Mutations -/

/-- The operations of the repository, with the new ids they draw. -/
inductive Mutation where
  | initializeFixedCategories (newId : String → String)
  | activateAuthorizationCutover (confirm : Bool) (ready : Option Bool)
  | suspendAuthorizationReads (confirm : Bool)
  | configureAccountRole (employeeId role : String)
  | configureAccount (employeeId : String) (clearance : ℤ) (grants : List (String × BusinessGrant))
  | configureEvidenceDocument (newId : String) (input : EvidenceAttributes)
  | defineDimension (input : DirectoryWrite)
  | defineDimensionValue (dimensionId : String) (input : DirectoryWrite)
  | configureCategory (input : CategoryWrite)
  | declareEnterpriseIdentity (name : String)
  | putStore (input : StoreWrite)
  | putResource (input : ResourceAttributes) (historicalSupplementReason : Option String)

namespace Mutation

def action : Mutation → String
  | .initializeFixedCategories .. => "categories.initialize"
  | .activateAuthorizationCutover .. => "authorization.cutover.activate"
  | .suspendAuthorizationReads .. => "authorization.reads.suspend"
  | .configureAccountRole .. => "account.role.configure"
  | .configureAccount .. => "account.permissions.configure"
  | .configureEvidenceDocument .. => "document.attributes.configure"
  | .defineDimension .. => "dimension.configure"
  | .defineDimensionValue .. => "dimension_value.configure"
  | .configureCategory .. => "category.configure"
  | .declareEnterpriseIdentity .. => "enterprise.identity.declare"
  | .putStore .. => "store.configure"
  | .putResource .. => "resource.configure"

def targetId (context : AuthorizationWriteContext) : Mutation → String
  | .initializeFixedCategories .. | .activateAuthorizationCutover .. |
    .suspendAuthorizationReads .. => context.orgId
  | .configureAccountRole employeeId _ | .configureAccount employeeId .. => employeeId
  | .configureEvidenceDocument _ input => input.documentId
  | .defineDimension input => input.id
  | .defineDimensionValue dimensionId input => dimensionId ++ "/" ++ input.id
  | .configureCategory input => input.id
  | .declareEnterpriseIdentity _ => "business-enterprise"
  | .putStore input => input.name
  | .putResource input _ => input.id

/-- The operations that write tables of the configuration only. -/
def configure (nfc : String → String) (tables : AuthorizationTables)
    (context : AuthorizationWriteContext) (expired : Bool) :
    Mutation → Except AuthorizationError AuthorizationTables
  | .initializeFixedCategories newId =>
    .ok (initializeFixedBusinessCategories tables context.orgId newId)
  | .configureAccountRole employeeId role =>
    AuthorizationWrites.configureAccountRole tables context employeeId role expired
  | .configureAccount employeeId clearance grants =>
    AuthorizationWrites.configureAccount tables context employeeId clearance grants
  | .configureEvidenceDocument newId input =>
    AuthorizationWrites.configureEvidenceDocument tables context newId input
  | .defineDimension input => AuthorizationWrites.defineDimension tables context input
  | .defineDimensionValue dimensionId input =>
    AuthorizationWrites.defineDimensionValue tables context dimensionId input
  | .configureCategory input => AuthorizationWrites.configureCategory tables context input
  | .declareEnterpriseIdentity name => do
    let (tables, _) ← saveEnterpriseIdentity tables context nfc none (some name)
    return tables
  | .putResource input historicalSupplementReason => do
    let historicalSupplement ← bindHistoricalSupplementIntent tables context.orgId context.actorId
      historicalSupplementReason
    persistResourceAttributes tables context.orgId input false historicalSupplement
  | .activateAuthorizationCutover .. | .suspendAuthorizationReads .. | .putStore .. => .ok tables

/-- The operation of a mutation, which writes the version `version`. -/
def operation (nfc : String → String) (s : AuthorizationStore)
    (context : AuthorizationWriteContext) (operator : Option PermissionOperatorAudit)
    (version : ℕ) (expired : Bool) : Mutation → Except AuthorizationError AuthorizationStore
  | .activateAuthorizationCutover confirm ready =>
    AuthorizationWrites.activateAuthorizationCutover s context confirm ready expired
  | .suspendAuthorizationReads confirm =>
    AuthorizationWrites.suspendAuthorizationReads s context confirm
  | .putStore input => AuthorizationWrites.putStore nfc s context operator version input
  | mutation => do
    let tables ← mutation.configure nfc s.tables context expired
    return { s with tables }

end Mutation

/-- A call of `mutate`. What it cannot foresee comes with it: whether the deadline has passed when
the operation looks, and when it is done, and whether the database ends the transaction. -/
structure MutateCall where
  context : AuthorizationWriteContext
  operator : Option PermissionOperatorAudit
  mutation : Mutation
  expired : Bool
  late : Bool
  interrupted : Bool

namespace MutateCall

/-- The action of the audits of a call. -/
def action (call : MutateCall) : String := auditAction call.operator call.mutation.action

def targetId (call : MutateCall) : String := call.mutation.targetId call.context

/-- The role of an account is only for an operator to change. -/
def offered (call : MutateCall) : Bool :=
  match call.mutation with
  | .configureAccountRole .. => call.operator.isSome
  | _ => true

/-- The version of an organization moves on if it is the one expected. An organization without a
state is at zero. -/
def advanceVersion (s : AuthorizationStore) (orgId : String) (expected : ℕ) :
    Except AuthorizationError AuthorizationStore :=
  let states := if expected = 0 && (s.states.lookup orgId).isNone then
      s.states.insert orgId {}
    else s.states
  match (states.lookup orgId).filter (·.version = expected) with
  | none => .error .authorizationVersionConflict
  | some _ => .ok { s with
      states := Table.update states orgId fun row => { row with version := row.version + 1 } }

def succeededAudit (call : MutateCall) (version : ℕ) : BusinessAuthorizationAudit :=
  { orgId := call.context.orgId, actorId := call.context.actorId
    action := call.mutation.action, targetId := call.targetId, outcome := .succeeded, version }

/-- The transaction of `mutate`. -/
def transaction (nfc : String → String) (s : AuthorizationStore) (call : MutateCall)
    (expected : ℕ) : Except AuthorizationError AuthorizationStore :=
  if call.interrupted then .error .interrupted
  else do
    let s ← advanceVersion s call.context.orgId expected
    if !s.tables.isAdmin call.context.orgId call.context.actorId then
      .error .authorizationAdminRequired
    else
      let s ← call.mutation.operation nfc s call.context call.operator (expected + 1) call.expired
      if call.late then .error .authorizationTransactionExpired
      else writeAudit s call.operator (call.succeededAudit (expected + 1))

/-- The audit of a call that was refused. -/
def deniedAudit (call : MutateCall) (error : AuthorizationError) (version : ℕ) :
    BusinessAuthorizationAudit :=
  { orgId := call.context.orgId, actorId := call.context.actorId
    action := call.mutation.action, targetId := call.targetId, outcome := .denied, version
    code := some (if error = .authorizationVersionConflict then "AUTHORIZATION_VERSION_CONFLICT"
      else "WRITE_REJECTED") }

end MutateCall

end AuthorizationWrites
end SmeDataCenter
