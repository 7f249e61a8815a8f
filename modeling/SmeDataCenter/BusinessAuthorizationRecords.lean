import Mathlib.Data.List.Sigma
import SmeDataCenter.BusinessAuthorization
import SmeDataCenter.SqlPredicate

/-!
# Resource rows

The three tables a resource is stored in, twice over: as the rows the database evaluates a
predicate on, and as the nested record the client library loads, from which
`toResourceReadRequirement` rebuilds the requirement the domain decides. Rows are related by
equality of their key columns on both sides.
-/

namespace SmeDataCenter

/-- `business_resources`. -/
structure BusinessResourceRow where
  orgId : String
  id : String
  categoryId : String
  valid : Bool
  fileConfidentialityLevel : Option ℤ

/-- `business_resource_scopes`. -/
structure BusinessResourceScopeRow where
  orgId : String
  resourceId : String
  id : String
  enterpriseKey : String
  ownership : BusinessOwnership
  storeName : Option String

/-- `business_scope_dimensions`. -/
structure BusinessScopeDimensionRow where
  orgId : String
  resourceId : String
  scopeId : String
  dimensionId : String
  valueId : String

/-- The primary key of `business_scope_dimensions`. -/
def BusinessScopeDimensionRow.key (d : BusinessScopeDimensionRow) :
    String × String × String × String := (d.orgId, d.resourceId, d.scopeId, d.dimensionId)

/-- The scope and dimension tables, the latter under its primary key. -/
structure BusinessTables where
  scopes : List BusinessResourceScopeRow
  dimensions : List BusinessScopeDimensionRow
  dimensions_nodup : (dimensions.map (·.key)).Nodup

/-- A resource with its scopes and their dimensions, as `resourcesInclude` loads it. -/
structure ResourceRow where
  resource : BusinessResourceRow
  scopes : List (BusinessResourceScopeRow × List BusinessScopeDimensionRow)

namespace BusinessTables

/-- The scope rows of a resource. -/
def scopesOf (tables : BusinessTables) (r : BusinessResourceRow) :
    List BusinessResourceScopeRow :=
  tables.scopes.filter fun s => decide (s.orgId = r.orgId ∧ s.resourceId = r.id)

/-- The dimension rows of a scope. -/
def dimensionsOf (tables : BusinessTables) (s : BusinessResourceScopeRow) :
    List BusinessScopeDimensionRow :=
  tables.dimensions.filter fun d =>
    decide (d.orgId = s.orgId ∧ d.resourceId = s.resourceId ∧ d.scopeId = s.id)

/-- `resourcesInclude`. -/
def load (tables : BusinessTables) (r : BusinessResourceRow) : ResourceRow where
  resource := r
  scopes := (tables.scopesOf r).map fun s => (s, tables.dimensionsOf s)

end BusinessTables

def toBusinessScopeItem (scope : BusinessResourceScopeRow)
    (dimensions : List BusinessScopeDimensionRow) : BusinessScopeItem where
  enterpriseKey := scope.enterpriseKey
  ownership := scope.ownership
  storeName := scope.storeName
  dimensions := .fromEntries (dimensions.map fun d => (d.dimensionId, d.valueId))

def toResourceReadRequirement (row : ResourceRow) : ResourceReadRequirement where
  orgId := row.resource.orgId
  categoryId := row.resource.categoryId
  valid := row.resource.valid
  fileConfidentialityLevel := row.resource.fileConfidentialityLevel
  scopes := row.scopes.map fun scope => toBusinessScopeItem scope.1 scope.2

/-! ### The rows as the database has them -/

/-- The enumeration value stored for an ownership. -/
def BusinessOwnership.text : BusinessOwnership → String
  | .group => "group"
  | .store => "store"

@[simp] lemma BusinessOwnership.text_inj {a b : BusinessOwnership} :
    a.text = b.text ↔ a = b := by
  cases a <;> cases b <;> decide

/-- A nullable column. -/
def nullable {α : Type} (f : α → Sql.Value) : Option α → Sql.Value
  | some a => f a
  | none => .null

def BusinessResourceRow.columns (r : BusinessResourceRow) : Sql.Row
  | "org_id" => .text r.orgId
  | "id" => .text r.id
  | "category_id" => .text r.categoryId
  | "valid" => .int (if r.valid then 1 else 0)
  | "file_confidentiality_level" => nullable .int r.fileConfidentialityLevel
  | _ => .null

def BusinessResourceScopeRow.columns (s : BusinessResourceScopeRow) : Sql.Row
  | "org_id" => .text s.orgId
  | "resource_id" => .text s.resourceId
  | "id" => .text s.id
  | "enterprise_key" => .text s.enterpriseKey
  | "ownership" => .text s.ownership.text
  | "store_name" => nullable .text s.storeName
  | _ => .null

def BusinessScopeDimensionRow.columns (d : BusinessScopeDimensionRow) : Sql.Row
  | "org_id" => .text d.orgId
  | "resource_id" => .text d.resourceId
  | "scope_id" => .text d.scopeId
  | "dimension_id" => .text d.dimensionId
  | "value_id" => .text d.valueId
  | _ => .null

/-- The tables by name. -/
def BusinessTables.database (tables : BusinessTables) : Sql.Database
  | "business_resource_scopes" => tables.scopes.map (·.columns)
  | "business_scope_dimensions" => tables.dimensions.map (·.columns)
  | _ => []

@[simp] lemma BusinessTables.database_scopes (tables : BusinessTables) :
    tables.database "business_resource_scopes" = tables.scopes.map (·.columns) := rfl

@[simp] lemma BusinessTables.database_dimensions (tables : BusinessTables) :
    tables.database "business_scope_dimensions" = tables.dimensions.map (·.columns) := rfl

/-! ### Records of distinct keys -/

section Record

variable {β : Type} {entries : List (String × β)}

lemma dedupKeys_of_nodupKeys : ∀ {l : List (Sigma fun _ : String => β)},
    l.NodupKeys → l.dedupKeys = l
  | [], _ => rfl
  | x :: l, h => by
    obtain ⟨hx, hl⟩ := List.nodupKeys_cons.mp h
    rw [List.dedupKeys_cons, dedupKeys_of_nodupKeys hl, List.kinsert_def,
      List.kerase_of_notMem_keys hx]

lemma Record.entries_fromEntries (h : (entries.map Prod.fst).Nodup) :
    (Record.fromEntries entries).entries =
      entries.reverse.map fun e => (⟨e.1, e.2⟩ : Sigma fun _ : String => β) := by
  rw [Record.fromEntries, AList.entries_toAList]
  apply dedupKeys_of_nodupKeys
  have hk : (entries.reverse.map fun e => (⟨e.1, e.2⟩ : Sigma fun _ : String => β)).keys =
      (entries.map Prod.fst).reverse := by
    simp [List.keys, List.map_map, Function.comp_def]
  rw [List.NodupKeys, hk]
  exact List.nodup_reverse.mpr h

lemma Record.keys_length (h : (entries.map Prod.fst).Nodup) :
    (Record.fromEntries entries).keys.length = entries.length := by
  simp [AList.keys, List.keys, Record.entries_fromEntries h]

lemma Record.lookup_iff (h : (entries.map Prod.fst).Nodup) {k : String} {v : β} :
    (Record.fromEntries entries).lookup k = some v ↔ (k, v) ∈ entries := by
  have hm := AList.mem_lookup_iff (a := k) (b := v) (s := Record.fromEntries entries)
  rw [Record.entries_fromEntries h, Option.mem_def] at hm
  rw [hm]
  simp

end Record

lemma BusinessTables.dimensionIds_nodup (tables : BusinessTables)
    (s : BusinessResourceScopeRow) :
    ((tables.dimensionsOf s).map (·.dimensionId)).Nodup := by
  have hall : ((tables.dimensionsOf s).map (·.key)).Nodup :=
    tables.dimensions_nodup.sublist ((List.filter_sublist).map _)
  have hmap : (tables.dimensionsOf s).map (·.key) =
      ((tables.dimensionsOf s).map (·.dimensionId)).map
        fun id => (s.orgId, s.resourceId, s.id, id) := by
    rw [List.map_map]
    refine List.map_congr_left fun d hd => ?_
    have := of_decide_eq_true (List.mem_filter.mp hd).2
    simp [BusinessScopeDimensionRow.key, this]
  rw [hmap] at hall
  exact List.Nodup.of_map _ hall

end SmeDataCenter
