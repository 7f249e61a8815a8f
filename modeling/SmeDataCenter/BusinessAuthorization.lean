import Mathlib.Data.List.AList
import Mathlib.Data.Int.Notation

/-!
# Business authorization

The access rule of the domain package. An account holds a clearance and a set of grants, a
resource carries a category, a confidentiality level and one or more scopes, and
`canReadResource` walks them. The reasons for a denial are checked in the order of the source.
Records keyed by an identifier are association lists, which hold each key once.
-/

namespace SmeDataCenter

/-- A record object: each key once. -/
abbrev Record (β : Type) := AList fun _ : String => β

/-- `Object.fromEntries`: a later entry replaces an earlier one of the same key. -/
def Record.fromEntries {β : Type} (entries : List (String × β)) : Record β :=
  (entries.reverse.map fun e => (⟨e.1, e.2⟩ : Sigma fun _ : String => β)).toAList

inductive BusinessOwnership where
  | group
  | store
  deriving DecidableEq

inductive BusinessSelection where
  | all
  | fixed (values : List String)

structure BusinessScopeItem where
  enterpriseKey : String
  ownership : BusinessOwnership
  storeName : Option String
  /-- Stable dimension id to stable value id. -/
  dimensions : Record String

inductive BusinessCategoryKind where
  | fixed
  | evidence
  deriving DecidableEq

structure BusinessCategoryRule where
  id : String
  kind : BusinessCategoryKind
  confidentialityLevel : Option ℤ
  ownerships : List BusinessOwnership
  requiredDimensionIds : List String
  deriving DecidableEq

structure BusinessGrant where
  orgId : String
  enterpriseKey : String
  categoryIds : List String
  ownership : BusinessOwnership
  stores : Option BusinessSelection
  dimensions : Record BusinessSelection

structure ResourceReadRequirement where
  orgId : String
  categoryId : String
  valid : Bool
  fileConfidentialityLevel : Option ℤ
  scopes : List BusinessScopeItem

inductive AuthorizationMode where
  | legacy
  | preparing
  | enabled
  | suspended
  deriving DecidableEq

/-- What a read is decided against. The categories are rows of one organisation, read by
their primary key `(org_id, id)`, so no two of them share an id. -/
structure AuthorizationSnapshot where
  orgId : String
  disabled : Bool
  clearance : ℤ
  mode : AuthorizationMode
  categories : List BusinessCategoryRule
  grants : List BusinessGrant
  categories_nodup : (categories.map (·.id)).Nodup

inductive AccessDenialReason where
  | accountDisabled
  | organizationMismatch
  | authorizationNotEnabled
  | resourceInvalid
  | attributesNotReady
  | clearanceInsufficient
  | grantMissing
  deriving DecidableEq

inductive AccessDecision where
  | allowed
  | denied (reason : AccessDenialReason)
  deriving DecidableEq

inductive GrantError where
  | grantIdentityRequired
  | invalidStoreSelection
  | categoryOwnershipMismatch
  | dimensionSelectionMismatch
  deriving DecidableEq

/-! ### Validators -/

/-- The characters `String.prototype.trim` removes. -/
def isTrimmed (c : Char) : Bool :=
  c.toNat ∈ [0x9, 0xA, 0xB, 0xC, 0xD, 0x20, 0xA0, 0x1680, 0x2028, 0x2029, 0x202F, 0x205F,
    0x3000, 0xFEFF] || (0x2000 ≤ c.toNat && c.toNat ≤ 0x200A)

/-- `String.prototype.trim`. -/
def trim (s : String) : String :=
  .ofList (((s.toList.dropWhile isTrimmed).reverse.dropWhile isTrimmed).reverse)

def isBusinessClearance (value : ℤ) : Bool := decide (0 ≤ value) && decide (value ≤ 3)

def validSelection : Option BusinessSelection → Bool
  | some .all => true
  | some (.fixed values) =>
    decide (0 < values.length) && values.all fun value => decide (0 < (trim value).length)
  | none => false

/-- The errors of one category of a grant. -/
def validateGrantCategory (grant : BusinessGrant) (categories : List BusinessCategoryRule)
    (id : String) : List GrantError :=
  match categories.find? fun category => category.id = id with
  | none => [.categoryOwnershipMismatch]
  | some rule =>
    if !rule.ownerships.contains grant.ownership then [.categoryOwnershipMismatch]
    else if grant.dimensions.keys.length ≠ rule.requiredDimensionIds.length ||
        rule.requiredDimensionIds.any fun dimension =>
          !validSelection (grant.dimensions.lookup dimension) then
      [.dimensionSelectionMismatch]
    else []

def validateBusinessGrant (grant : BusinessGrant) (categories : List BusinessCategoryRule) :
    List GrantError :=
  (if grant.orgId = "" || grant.enterpriseKey = "" || grant.categoryIds.length = 0 then
    [.grantIdentityRequired] else []) ++
  (if (match grant.ownership with
      | .store => !validSelection grant.stores
      | .group => grant.stores.isSome) then
    [.invalidStoreSelection] else []) ++
  grant.categoryIds.flatMap (validateGrantCategory grant categories)

def validateBusinessScope (scope : BusinessScopeItem) (category : BusinessCategoryRule) : Bool :=
  decide (0 < scope.enterpriseKey.length) &&
  category.ownerships.contains scope.ownership &&
  (match scope.ownership, scope.storeName with
    | .store, some name => decide (0 < (trim name).length)
    | .store, none => false
    | .group, name => name.isNone) &&
  decide (scope.dimensions.keys.length = category.requiredDimensionIds.length) &&
  category.requiredDimensionIds.all fun id =>
    match scope.dimensions.lookup id with
    | some value => decide (0 < value.length)
    | none => false

/-! ### The decision -/

/-- An absent value is no member of a fixed selection. -/
def selected (selection : Option BusinessSelection) (value : Option String) : Bool :=
  match selection, value with
  | some .all, _ => true
  | some (.fixed values), some value => values.contains value
  | _, _ => false

/-- The grants of the snapshot that are its organisation's own and pass the validator. -/
def AuthorizationSnapshot.validGrants (snapshot : AuthorizationSnapshot) : List BusinessGrant :=
  snapshot.grants.filter fun grant =>
    decide (grant.orgId = snapshot.orgId) &&
    decide ((validateBusinessGrant grant snapshot.categories).length = 0)

/-- Does a grant reach a scope of a resource of this category? -/
def grantCovers (category : BusinessCategoryRule) (scope : BusinessScopeItem)
    (grant : BusinessGrant) : Bool :=
  decide (grant.enterpriseKey = scope.enterpriseKey) &&
  grant.categoryIds.contains category.id &&
  decide (grant.ownership = scope.ownership) &&
  (decide (scope.ownership = .group) || selected grant.stores scope.storeName) &&
  category.requiredDimensionIds.all fun id =>
    selected (grant.dimensions.lookup id) (scope.dimensions.lookup id)

/-- The level a resource of the category is classified at. -/
def resourceLevel (category : BusinessCategoryRule) (requirement : ResourceReadRequirement) :
    Option ℤ :=
  match category.kind with
  | .evidence => requirement.fileConfidentialityLevel
  | .fixed => category.confidentialityLevel

def canReadResource (snapshot : AuthorizationSnapshot) (requirement : ResourceReadRequirement) :
    AccessDecision :=
  if snapshot.disabled then .denied .accountDisabled
  else if snapshot.orgId ≠ requirement.orgId then .denied .organizationMismatch
  else if snapshot.mode ≠ .enabled then .denied .authorizationNotEnabled
  else if !requirement.valid then .denied .resourceInvalid
  else match snapshot.categories.find? fun rule => rule.id = requirement.categoryId with
    | none => .denied .attributesNotReady
    | some category =>
      if requirement.scopes.length = 0 ||
          requirement.scopes.any fun scope => !validateBusinessScope scope category then
        .denied .attributesNotReady
      else match resourceLevel category requirement with
        | none => .denied .attributesNotReady
        | some level =>
          if !isBusinessClearance level || !isBusinessClearance snapshot.clearance then
            .denied .attributesNotReady
          else if snapshot.clearance < level then .denied .clearanceInsufficient
          else if requirement.scopes.all fun scope =>
              snapshot.validGrants.any fun grant => grantCovers category scope grant then
            .allowed
          else .denied .grantMissing

end SmeDataCenter
