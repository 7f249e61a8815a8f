import Mathlib.Tactic.Common
import SmeDataCenter.AccessRule
import SmeDataCenter.AuthorizationTables

/-!
# Readiness of the cutover

Before the business authorization of an organization is enabled, an inspection looks over its
categories, resources, documents and grants and lists what is missing. Where it lists nothing,
what is there can be read by somebody.
-/

namespace SmeDataCenter
namespace Cutover

open AuthorizationWrites (fixedBusinessCategoryOwnership)

/-- What release has to support. -/
def authorizationReadAdapters : List String :=
  ["store_review_query", "structured_query", "structured_coverage", "partition_catalog",
    "partition_download", "source_download", "evidence_search", "evidence_status",
    "quarantine_certificate", "ledger_pdf", "ledger_download", "document_lifecycle",
    "cost_card_catalog", "cost_card_download", "cost_card_lifecycle"]

inductive CutoverCode where
  | readAdapterNotReady
  | internalCategoryRequired
  | fixedCategoryClearanceRequired
  | dimensionNotReady
  | resourceAttributesRequired
  | resourceCategoryMismatch
  | singleStoreRequired
  | exactStoreReferenceRequired
  | dimensionValueRequired
  | sourceLineageRequired
  | documentAttributesRequired
  | partitionAttributesRequired
  | storeReviewAttributesRequired
  | costCardAttributesRequired
  | pdfAttributesRequired
  | grantConfigurationRequired
  | grantDimensionRequired
  deriving DecidableEq

structure CutoverIssue where
  code : CutoverCode
  targetId : String

structure Category extends BusinessCategoryRule where
  key : Option String
  deriving DecidableEq

structure Resource where
  id : String
  kind : String
  resourceKey : String
  documentId : Option String
  sourceDocumentId : Option String
  requirement : ResourceReadRequirement

structure InventoryDocument where
  id : String
  kind : Option String
  dataset : Option String

structure InventoryReview where
  id : String
  enterpriseKey : String
  storeName : String

structure InventoryCard where
  id : String
  enterpriseKey : String
  archived : Bool

/-- The categories are rows of one organization, which has each id and each key once. -/
structure CutoverInventory where
  categories : List Category
  resources : List Resource := []
  documents : List InventoryDocument := []
  partitions : List String := []
  storeReviewEnterpriseKeys : List String := []
  storeReviews : List InventoryReview := []
  costCards : List InventoryCard := []
  pdfs : List String := []
  /-- The accounts with their grants and the ids of these. -/
  accounts : List (String × List (String × BusinessGrant)) := []
  /-- Enterprise key and name. -/
  stores : List (String × String) := []
  /-- The dimensions with the ids of their values. -/
  dimensions : List (String × List String) := []
  ids_nodup : (categories.map (·.id)).Nodup
  key_unique : ∀ c ∈ categories, ∀ c' ∈ categories, c.key ≠ none → c.key = c'.key → c = c'

def issueIf (condition : Bool) (code : CutoverCode) (targetId : String) : List CutoverIssue :=
  if condition then [⟨code, targetId⟩] else []

@[simp] lemma issueIf_eq_nil {condition : Bool} {code : CutoverCode} {targetId : String} :
    issueIf condition code targetId = [] ↔ condition = false := by
  cases condition <;> simp [issueIf]

def cleared (level : Option ℤ) : Bool := level.any isBusinessClearance

namespace CutoverInventory

variable (inventory : CutoverInventory)

def rules : List BusinessCategoryRule := inventory.categories.map (·.toBusinessCategoryRule)

/-- `categories.get`, where a later entry of the map replaces an earlier one. -/
def categoryOf (resource : Resource) : Option Category :=
  inventory.categories.reverse.find? (·.id = resource.requirement.categoryId)

def keyOf (resource : Resource) : Option String := (inventory.categoryOf resource).bind (·.key)

def kindOf (resource : Resource) : Option BusinessCategoryKind :=
  (inventory.categoryOf resource).map (·.kind)

def hasStore (enterpriseKey : String) (name : Option String) : Bool :=
  inventory.stores.any fun store => store.1 = enterpriseKey && some store.2 = name

/-- `dimensions.get` -/
def valuesOf (id : String) : Option (List String) :=
  (inventory.dimensions.reverse.find? (·.1 = id)).map (·.2)

def fixedIssues (key : String) : List CutoverIssue :=
  let rule := inventory.categories.find? fun c => c.kind = .fixed && c.key = some key
  if key = "delivery_ledger" then issueIf rule.isNone .internalCategoryRequired key
  else issueIf (!rule.any fun c => cleared c.confidentialityLevel)
    .fixedCategoryClearanceRequired key

def lacksAttributes (resource : Resource) : Bool :=
  match inventory.categoryOf resource with
  | none => true
  | some category =>
    resource.requirement.scopes.isEmpty ||
    (resource.requirement.scopes.any fun scope =>
      !validateBusinessScope scope category.toBusinessCategoryRule) ||
    (category.kind = .evidence && !cleared resource.requirement.fileConfidentialityLevel)

def mismatches (resource : Resource) : Bool :=
  (resource.kind = "evidence" && inventory.kindOf resource ≠ some .evidence) ||
  (["quarantine_certificate", "ledger_pdf"].contains resource.kind &&
    inventory.keyOf resource ≠ some resource.kind) ||
  (resource.kind = "store_review" && (inventory.keyOf resource ≠ some "store_reviews" ||
    inventory.kindOf resource ≠ some .fixed)) ||
  (inventory.keyOf resource = some "store_reviews" && resource.kind ≠ "store_review") ||
  (resource.kind = "cost_card" && (inventory.keyOf resource ≠ some "cost_cards" ||
    inventory.kindOf resource ≠ some .fixed)) ||
  (["structured", "source_fragment"].contains resource.kind &&
    inventory.kindOf resource ≠ some .fixed)

def scopeIssues (id : String) (scope : BusinessScopeItem) : List CutoverIssue :=
  issueIf (scope.ownership = .store && !inventory.hasStore scope.enterpriseKey scope.storeName)
    .exactStoreReferenceRequired id ++
  scope.dimensions.entries.flatMap fun entry =>
    issueIf (!(inventory.valuesOf entry.1).any (·.contains entry.2)) .dimensionValueRequired id

def resourceIssues (resource : Resource) : List CutoverIssue :=
  let scopes := resource.requirement.scopes
  issueIf (inventory.lacksAttributes resource) .resourceAttributesRequired resource.id ++
  issueIf (inventory.mismatches resource) .resourceCategoryMismatch resource.id ++
  issueIf (["quarantine_certificate", "ledger_pdf", "store_review"].contains resource.kind &&
    (scopes.length ≠ 1 || scopes.head?.map (·.ownership) ≠ some .store))
    .singleStoreRequired resource.id ++
  scopes.flatMap (inventory.scopeIssues resource.id)

/-- The resources of a document: the fragments of a structured one, those of its kind else. -/
def matching (document : InventoryDocument) : List Resource :=
  inventory.resources.filter fun resource =>
    if document.kind = some "structured" then
      resource.kind = "source_fragment" && resource.sourceDocumentId = some document.id
    else some resource.kind = document.kind && resource.documentId = some document.id

def documentIssues (document : InventoryDocument) : List CutoverIssue :=
  let structured := decide (document.kind = some "structured")
  -- a category without a key has another one than a document without a dataset
  issueIf ((inventory.matching document).isEmpty ||
      structured && (inventory.matching document).any fun resource =>
        !(inventory.keyOf resource).any fun key => some key = document.dataset)
    (if structured then .sourceLineageRequired else .documentAttributesRequired) document.id

def has (kind resourceKey : String) : Bool :=
  inventory.resources.any fun resource => resource.kind = kind && resource.resourceKey = resourceKey

/-- The last resource of the kind and the key. -/
def lastOf (kind resourceKey : String) : Option Resource :=
  inventory.resources.reverse.find? fun resource =>
    resource.kind = kind && resource.resourceKey = resourceKey

def reviewIssues (review : InventoryReview) : List CutoverIssue :=
  issueIf (!(inventory.lastOf "store_review" ("store-review:" ++ review.id)).any fun resource =>
      inventory.storeReviewEnterpriseKeys.contains review.enterpriseKey &&
      resource.requirement.valid && resource.documentId.isNone && resource.sourceDocumentId.isNone &&
      resource.requirement.scopes.length = 1 &&
      resource.requirement.scopes.head?.any fun scope =>
        scope.ownership = .store && scope.enterpriseKey = review.enterpriseKey &&
        scope.storeName = some review.storeName)
    .storeReviewAttributesRequired review.id

def cardIssues (card : InventoryCard) : List CutoverIssue :=
  issueIf (!(inventory.lastOf "cost_card" ("cost-card:" ++ card.id)).any fun resource =>
      resource.requirement.scopes.length = 1 &&
      (resource.requirement.scopes.head?.any fun scope =>
        scope.ownership = .group && scope.enterpriseKey = card.enterpriseKey) &&
      resource.requirement.valid ≠ card.archived)
    .costCardAttributesRequired card.id

def grantIssues (id : String) (grant : BusinessGrant) : List CutoverIssue :=
  issueIf ((validateBusinessGrant grant inventory.rules).length ≠ 0) .grantConfigurationRequired id ++
  issueIf (match grant.stores with
      | some (.fixed values) =>
        values.any fun name => !inventory.hasStore grant.enterpriseKey (some name)
      | _ => false)
    .exactStoreReferenceRequired id ++
  grant.dimensions.entries.flatMap fun entry =>
    issueIf (!(inventory.valuesOf entry.1).any fun known =>
        match entry.2 with
        | .all => true
        | .fixed values => values.all known.contains)
      .grantDimensionRequired id

end CutoverInventory

structure CutoverReport where
  ready : Bool
  missing : List CutoverIssue
  accountsWithoutGrants : List String

def inspectCutoverInventory (inventory : CutoverInventory) (adapters : List String) :
    CutoverReport :=
  let missing :=
    (authorizationReadAdapters.flatMap fun adapter =>
      issueIf (!adapters.contains adapter) .readAdapterNotReady adapter) ++
    (fixedBusinessCategoryOwnership.flatMap fun entry => inventory.fixedIssues entry.1) ++
    (inventory.categories.flatMap fun category => category.requiredDimensionIds.flatMap fun id =>
      issueIf (inventory.valuesOf id).isNone .dimensionNotReady category.id) ++
    inventory.resources.flatMap inventory.resourceIssues ++
    inventory.documents.flatMap inventory.documentIssues ++
    (inventory.partitions.flatMap fun id =>
      issueIf (!inventory.has "structured" ("partition:" ++ id)) .partitionAttributesRequired id) ++
    inventory.storeReviews.flatMap inventory.reviewIssues ++
    inventory.costCards.flatMap inventory.cardIssues ++
    (inventory.pdfs.flatMap fun id =>
      issueIf (!inventory.has "ledger_pdf" id) .pdfAttributesRequired id) ++
    inventory.accounts.flatMap fun account => account.2.flatMap fun grant =>
      inventory.grantIssues (account.1 ++ "/" ++ grant.1) grant.2
  { ready := missing.length = 0
    missing
    accountsWithoutGrants := (inventory.accounts.filter (·.2.isEmpty)).map (·.1) }

/-! ### What readiness leaves unreadable -/

variable {inventory : CutoverInventory} {adapters : List String} {resource : Resource}
  {category : Category} {scope : BusinessScopeItem}

/-- Everything that is listed has a resource of its own kind. -/
structure Covered (inventory : CutoverInventory) : Prop where
  documents : ∀ document ∈ inventory.documents, ∃ resource ∈ inventory.resources,
    if document.kind = some "structured" then
      resource.kind = "source_fragment" ∧ resource.sourceDocumentId = some document.id
    else some resource.kind = document.kind ∧ resource.documentId = some document.id
  partitions : ∀ id ∈ inventory.partitions, ∃ resource ∈ inventory.resources,
    resource.kind = "structured" ∧ resource.resourceKey = "partition:" ++ id
  pdfs : ∀ id ∈ inventory.pdfs, ∃ resource ∈ inventory.resources,
    resource.kind = "ledger_pdf" ∧ resource.resourceKey = id
  storeReviews : ∀ review ∈ inventory.storeReviews, ∃ resource ∈ inventory.resources,
    resource.kind = "store_review" ∧ resource.resourceKey = "store-review:" ++ review.id
  costCards : ∀ card ∈ inventory.costCards, ∃ resource ∈ inventory.resources,
    resource.kind = "cost_card" ∧ resource.resourceKey = "cost-card:" ++ card.id

lemma exists_of_has {kind resourceKey : String} (h : (!inventory.has kind resourceKey) = false) :
    ∃ resource ∈ inventory.resources, resource.kind = kind ∧ resource.resourceKey = resourceKey := by
  simpa [CutoverInventory.has] using h

lemma exists_of_lastOf {kind resourceKey : String} {p : Resource → Bool}
    (h : (!(inventory.lastOf kind resourceKey).any p) = false) :
    ∃ resource ∈ inventory.resources, resource.kind = kind ∧ resource.resourceKey = resourceKey := by
  have hany : (inventory.lastOf kind resourceKey).any p = true := by simpa using h
  obtain ⟨resource, hlast, -⟩ := (Option.any_eq_true _ _).mp hany
  unfold CutoverInventory.lastOf at hlast
  exact ⟨resource, List.mem_reverse.mp (List.mem_of_find?_eq_some hlast),
    by simpa using List.find?_some hlast⟩

lemma exists_of_documentIssues {document : InventoryDocument}
    (h : inventory.documentIssues document = []) : ∃ resource ∈ inventory.resources,
      if document.kind = some "structured" then
        resource.kind = "source_fragment" ∧ resource.sourceDocumentId = some document.id
      else some resource.kind = document.kind ∧ resource.documentId = some document.id := by
  have hne : inventory.matching document ≠ [] := by
    intro he
    simp [CutoverInventory.documentIssues, he] at h
  obtain ⟨resource, hmem⟩ := List.exists_mem_of_ne_nil _ hne
  obtain ⟨hresource, hmatches⟩ := List.mem_filter.mp hmem
  refine ⟨resource, hresource, ?_⟩
  split_ifs with hkind
  · simpa [hkind] using hmatches
  · simpa [hkind] using hmatches

/-- The account that an inventory is readable by: enabled, with the clearance 3. -/
def snapshot (inventory : CutoverInventory) (orgId : String) (grants : List BusinessGrant) :
    AuthorizationSnapshot where
  orgId := orgId
  disabled := false
  clearance := 3
  mode := .enabled
  categories := inventory.rules
  grants := grants
  categories_nodup := by
    simpa [CutoverInventory.rules, Function.comp_def] using inventory.ids_nodup

/-- Every dimension of a record, with all its values. -/
def allOf (dimensions : Record String) : Record BusinessSelection where
  entries := dimensions.entries.map fun entry => ⟨entry.1, .all⟩
  nodupKeys := by simpa [List.NodupKeys, List.keys, Function.comp_def] using dimensions.nodupKeys

lemma lookup_allOf {dimensions : Record String} {id value : String}
    (h : dimensions.lookup id = some value) : (allOf dimensions).lookup id = some .all := by
  refine AList.mem_lookup_iff.mpr (List.mem_map.mpr ⟨⟨id, value⟩, ?_, rfl⟩)
  exact AList.mem_lookup_iff.mp h

@[simp] lemma length_keys_allOf (dimensions : Record String) :
    (allOf dimensions).keys.length = dimensions.keys.length := by
  simp [allOf, AList.keys, List.keys]

/-- A grant of a scope, as wide as it can be. -/
def grantFor (requirement : ResourceReadRequirement) (scope : BusinessScopeItem) :
    BusinessGrant where
  orgId := requirement.orgId
  enterpriseKey := scope.enterpriseKey
  categoryIds := [requirement.categoryId]
  ownership := scope.ownership
  stores := if scope.ownership = .store then some .all else none
  dimensions := allOf scope.dimensions

variable {rule : BusinessCategoryRule}

lemma dimension_of_valid (h : validateBusinessScope scope rule = true) {id : String}
    (hid : id ∈ rule.requiredDimensionIds) : (allOf scope.dimensions).lookup id = some .all := by
  unfold validateBusinessScope at h
  rw [Bool.and_eq_true, List.all_eq_true] at h
  have hvalue := h.2 id hid
  cases hlookup : scope.dimensions.lookup id with
  | none => simp [hlookup] at hvalue
  | some value => exact lookup_allOf hlookup

lemma grantFor_valid {requirement : ResourceReadRequirement} (horg : requirement.orgId ≠ "")
    (hvalid : validateBusinessScope scope rule = true)
    (hrule : (inventory.rules.find? fun rule => rule.id = requirement.categoryId) = some rule) :
    validateBusinessGrant (grantFor requirement scope) inventory.rules = [] := by
  have hdimensions := fun id (hid : id ∈ rule.requiredDimensionIds) => dimension_of_valid hvalid hid
  have hselected : (rule.requiredDimensionIds.any fun id =>
      !validSelection ((allOf scope.dimensions).lookup id)) = false := by
    rw [List.any_eq_false]
    intro id hid
    simp [hdimensions id hid, validSelection]
  simp only [validateBusinessScope, Bool.and_eq_true, decide_eq_true_eq] at hvalid
  obtain ⟨⟨⟨⟨hkey, howns⟩, -⟩, hlength⟩, -⟩ := hvalid
  have hkey : scope.enterpriseKey ≠ "" := by
    rintro he
    simp [he] at hkey
  have hcategory : validateGrantCategory (grantFor requirement scope) inventory.rules
      requirement.categoryId = [] := by
    simpa [validateGrantCategory, hrule, grantFor, hlength, hselected] using howns
  cases hownership : scope.ownership <;>
    simp [validateBusinessGrant, grantFor, horg, hkey, hownership, validSelection] <;>
    simpa [grantFor, hownership] using hcategory

lemma grantFor_covers {requirement : ResourceReadRequirement}
    (hid : rule.id = requirement.categoryId) (hvalid : validateBusinessScope scope rule = true) :
    grantCovers rule scope (grantFor requirement scope) = true := by
  simp only [grantCovers, grantFor, hid, decide_true, Bool.true_and, Bool.and_eq_true,
    List.all_eq_true]
  refine ⟨⟨by simp, ?_⟩, fun id hmem => by rw [dimension_of_valid hvalid hmem]; rfl⟩
  cases hownership : scope.ownership <;> simp [selected]

lemma cleared_of_registered (hcategory : category ∈ inventory.categories)
    {entry : String × BusinessOwnership} (hkey : category.key = some entry.1)
    (hledger : entry.1 ≠ "delivery_ledger") (h : inventory.fixedIssues entry.1 = []) :
    cleared category.confidentialityLevel = true := by
  simp only [CutoverInventory.fixedIssues, if_neg hledger, issueIf_eq_nil, Bool.not_eq_false'] at h
  obtain ⟨rule, hfind, hlevel⟩ := (Option.any_eq_true _ _).mp h
  have hrule : rule.kind = .fixed ∧ rule.key = some entry.1 := by
    simpa using List.find?_some hfind
  rwa [inventory.key_unique category hcategory rule (List.mem_of_find?_eq_some hfind)
    (by simp [hkey]) (hkey.trans hrule.2.symm)]

/-- What an inventory that is ready leaves unreadable: nothing that is valid, has an organization
and belongs to evidence or to a registered category other than the internal one. -/
theorem ready_leaves_readable
    (hready : (inspectCutoverInventory inventory adapters).ready = true) :
    Covered inventory ∧ ∀ resource ∈ inventory.resources, resource.requirement.valid = true →
      resource.requirement.orgId ≠ "" →
      (∀ category, inventory.categoryOf resource = some category → category.kind = .fixed →
        ∃ entry ∈ fixedBusinessCategoryOwnership, category.key = some entry.1 ∧
          entry.1 ≠ "delivery_ledger") →
      ∃ grants, (∀ grant ∈ grants, validateBusinessGrant grant inventory.rules = []) ∧
        canReadResource (snapshot inventory resource.requirement.orgId grants)
          resource.requirement = .allowed := by
  simp only [inspectCutoverInventory, decide_eq_true_eq, List.length_eq_zero_iff,
    List.append_eq_nil_iff, List.flatMap_eq_nil_iff, issueIf_eq_nil] at hready
  obtain ⟨⟨⟨⟨⟨⟨⟨⟨⟨-, hfixed⟩, -⟩, hresources⟩, hdocuments⟩, hpartitions⟩, hreviews⟩, hcards⟩,
    hpdfs⟩, -⟩ := hready
  refine ⟨⟨fun document hmem => exists_of_documentIssues (hdocuments document hmem),
    fun id hid => exists_of_has (hpartitions id hid), fun id hid => exists_of_has (hpdfs id hid),
    fun review hmem => exists_of_lastOf (issueIf_eq_nil.mp (hreviews review hmem)),
    fun card hmem => exists_of_lastOf (issueIf_eq_nil.mp (hcards card hmem))⟩,
    fun resource hmem hvalid horg hregistered => ?_⟩
  have hissues := hresources resource hmem
  simp only [CutoverInventory.resourceIssues, List.append_eq_nil_iff, issueIf_eq_nil] at hissues
  have hattributes := hissues.1.1.1
  unfold CutoverInventory.lacksAttributes at hattributes
  cases hfind : inventory.categoryOf resource with
  | none => simp [hfind] at hattributes
  | some category =>
    simp only [hfind, Bool.or_eq_false_iff, List.isEmpty_eq_false_iff, List.any_eq_false]
      at hattributes
    obtain ⟨⟨hscopes, hshaped⟩, hevidence⟩ := hattributes
    have hshaped : ∀ scope ∈ resource.requirement.scopes,
        validateBusinessScope scope category.toBusinessCategoryRule = true := by simpa using hshaped
    have hcategory := List.mem_reverse.mp (List.mem_of_find?_eq_some hfind)
    have hid : category.id = resource.requirement.categoryId := by
      simpa using List.find?_some hfind
    have hrule : category.toBusinessCategoryRule ∈ inventory.rules :=
      List.mem_map_of_mem hcategory
    have hlevel : ∃ level, resourceLevel category.toBusinessCategoryRule resource.requirement =
        some level ∧ isBusinessClearance level = true := by
      unfold resourceLevel
      cases hkind : category.kind with
      | evidence =>
        simpa [hkind, cleared, Option.any_eq_true] using hevidence
      | fixed =>
        obtain ⟨entry, hentry, hkey, hledger⟩ := hregistered category hfind hkind
        simpa [cleared, Option.any_eq_true] using
          cleared_of_registered hcategory hkey hledger (hfixed entry hentry)
    set grants := resource.requirement.scopes.map (grantFor resource.requirement) with hgrants
    have hfound := AuthorizedScope.find_category
      (snapshot inventory resource.requirement.orgId grants) hrule
    rw [hid] at hfound
    have haccepted : ∀ grant ∈ grants, validateBusinessGrant grant inventory.rules = [] := by
      intro grant hgrant
      obtain ⟨scope, hscope, rfl⟩ := List.mem_map.mp hgrant
      exact grantFor_valid horg (hshaped scope hscope) hfound
    refine ⟨grants, haccepted, (AuthorizedScope.canReadResource_allowed_iff _ _).mpr
      ⟨⟨rfl, rfl, rfl⟩, rfl, hvalid, hscopes, category.toBusinessCategoryRule, hrule, hid, ?_, hshaped,
        fun scope hscope => ?_⟩⟩
    · obtain ⟨level, hlevel, hclear⟩ := hlevel
      simp only [isBusinessClearance, Bool.and_eq_true, decide_eq_true_eq] at hclear
      exact ⟨level, hlevel, hclear.1, hclear.2⟩
    · refine ⟨grantFor resource.requirement scope, ?_, grantFor_covers hid (hshaped scope hscope)⟩
      have hgrant := List.mem_map_of_mem (f := grantFor resource.requirement) hscope
      refine List.mem_filter.mpr ⟨hgrant, ?_⟩
      have := haccepted _ hgrant
      simp [snapshot, grantFor] at this ⊢
      simpa using this

/-! ### Inventories -/

/-- The fixed categories, and one of another key that has no level. -/
def fixedCategories (other : String) : List Category :=
  ⟨⟨other, .fixed, none, [.group], []⟩, some other⟩ ::
    fixedBusinessCategoryOwnership.map fun entry =>
      ⟨⟨entry.1, .fixed, some 3, [entry.2], []⟩, some entry.1⟩

def groupResource (orgId categoryId : String) : Resource where
  id := categoryId
  kind := "structured"
  resourceKey := "partition:" ++ categoryId
  documentId := none
  sourceDocumentId := none
  requirement := ⟨orgId, categoryId, true, none, [⟨"enterprise", .group, none, ∅⟩]⟩

def inventoryOf (resources : List Resource) : CutoverInventory where
  categories := fixedCategories "other"
  resources := resources
  ids_nodup := by decide
  key_unique := by decide

theorem vip_readable :
    ∃ grants, (∀ grant ∈ grants,
      validateBusinessGrant grant (inventoryOf [groupResource "org" "vip"]).rules = []) ∧
        canReadResource (snapshot (inventoryOf [groupResource "org" "vip"]) "org" grants)
          (groupResource "org" "vip").requirement = .allowed := by
  have hready : (inspectCutoverInventory (inventoryOf [groupResource "org" "vip"])
      authorizationReadAdapters).ready = true := by decide +kernel
  refine (ready_leaves_readable hready).2 (groupResource "org" "vip") List.mem_cons_self rfl
    (by decide) fun category hcategory _ => ⟨("vip", .group), by decide, ?_, by decide⟩
  cases hcategory
  rfl

/-- A resource without an organization and one of a fixed category that nobody registered pass the
inspection, and no grants make them readable. -/
theorem ready_and_unreadable :
    (inspectCutoverInventory (inventoryOf [groupResource "" "vip", groupResource "org" "other"])
      authorizationReadAdapters).ready = true ∧
    ∀ grants, ∀ resource ∈ [groupResource "" "vip", groupResource "org" "other"],
      canReadResource (snapshot (inventoryOf [groupResource "" "vip", groupResource "org" "other"])
        resource.requirement.orgId grants) resource.requirement ≠ .allowed := by
  refine ⟨by decide +kernel, fun grants resource hresource hallowed => ?_⟩
  have h := (AuthorizedScope.canReadResource_allowed_iff _ _).mp hallowed
  obtain ⟨category, hcategory, hin⟩ := h.category
  rcases List.mem_pair.mp hresource with rfl | rfl
  · obtain ⟨grant, hgrant, -⟩ := hin.granted _ List.mem_cons_self
    simp [AuthorizationSnapshot.validGrants, snapshot, groupResource, validateBusinessGrant] at hgrant
    grind
  · obtain ⟨level, hlevel, -⟩ := hin.cleared
    have hnone : ∀ rule ∈ (inventoryOf []).rules, rule.id = "other" →
        resourceLevel rule (groupResource "org" "other").requirement = none := by decide
    rw [hnone category hcategory hin.category_eq] at hlevel
    cases hlevel

end Cutover
end SmeDataCenter
