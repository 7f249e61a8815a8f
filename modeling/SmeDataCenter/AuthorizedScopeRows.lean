import SmeDataCenter.AccessRule
import SmeDataCenter.AuthorizedScopeSql

/-!
# Scopes in the compiled predicate

What the pieces of the compiled predicate say about one scope row and its dimension rows. A
scope without a store name makes comparisons unknown; they never decide a scope, because a
store scope without a name already fails its shape.
-/

namespace SmeDataCenter
namespace AuthorizedScope

open Sql

/-! ### The rows of a scope -/

section Scope

variable (matcher : String → String → Bool) (tables : BusinessTables) (r : BusinessResourceRow)
  (s : BusinessResourceScopeRow)

attribute [local simp] Condition.eval Operand.value BusinessResourceRow.columns
  BusinessResourceScopeRow.columns BusinessScopeDimensionRow.columns

/-- The alias `r` in reach. -/
def atResource : Aliases := Function.update (fun _ _ => .null) "r" r.columns

/-- The aliases `r` and `s` in reach. -/
def atScope : Aliases := Function.update (atResource r) "s" s.columns

/-- The aliases `r`, `s` and `d` in reach. -/
def atDimension (d : BusinessScopeDimensionRow) : Aliases :=
  Function.update (atScope r s) "d" d.columns

/-- The scope as the domain sees it. -/
def scopeItem : BusinessScopeItem := toBusinessScopeItem s (tables.dimensionsOf s)

variable {id : String}

lemma lookup_dimension {value : String} :
    (scopeItem tables s).dimensions.lookup id = some value ↔
      ∃ d ∈ tables.dimensionsOf s, d.dimensionId = id ∧ d.valueId = value := by
  have hnd : (((tables.dimensionsOf s).map fun d => (d.dimensionId, d.valueId)).map
      Prod.fst).Nodup := by
    simpa [List.map_map, Function.comp_def] using tables.dimensionIds_nodup s
  rw [scopeItem, toBusinessScopeItem, Record.lookup_iff hnd]
  simp

lemma keys_dimensions :
    (scopeItem tables s).dimensions.keys.length = (tables.dimensionsOf s).length := by
  have hnd : (((tables.dimensionsOf s).map fun d => (d.dimensionId, d.valueId)).map
      Prod.fst).Nodup := by
    simpa [List.map_map, Function.comp_def] using tables.dimensionIds_nodup s
  rw [scopeItem, toBusinessScopeItem, Record.keys_length hnd, List.length_map]

variable {matcher tables r s}

lemma ofScope_holds {d : BusinessScopeDimensionRow} {cs : List (Condition Value)} :
    Condition.eval matcher tables.database (atDimension r s d) (ofScope cs) = .holds ↔
      (d.orgId = s.orgId ∧ d.resourceId = s.resourceId ∧ d.scopeId = s.id) ∧
        ∀ c ∈ cs, Condition.eval matcher tables.database (atDimension r s d) c = .holds := by
  rw [ofScope, Condition.eval_all_holds]
  simp [Condition.eval, Operand.value, atDimension, atScope, Function.update,
    BusinessScopeDimensionRow.columns, BusinessResourceScopeRow.columns, and_assoc]

lemma exists_dimension {cs : List (Condition Value)} :
    Condition.eval matcher tables.database (atScope r s)
        (.exists "business_scope_dimensions" "d" (ofScope cs)) ≠ .fails ↔
      ∃ d ∈ tables.dimensionsOf s, ∀ c ∈ cs,
        Condition.eval matcher tables.database (atDimension r s d) c = .holds := by
  rw [Ne, Condition.exists_fails]
  simp only [BusinessTables.database_dimensions, List.forall_mem_map, not_forall, not_not,
    exists_prop, BusinessTables.dimensionsOf, List.mem_filter, decide_eq_true_eq, and_assoc]
  refine exists_congr fun d => and_congr_right fun _ => ?_
  exact (ofScope_holds (r := r) (d := d)).trans (by simp only [and_assoc])

lemma count_dimensions {n : ℤ} :
    Condition.eval matcher tables.database (atScope r s)
        (.countEq "business_scope_dimensions" "d" (ofScope []) (.placeholder (.int n))) ≠ .fails ↔
      ((tables.dimensionsOf s).length : ℤ) = n := by
  have hcount : (tables.database "business_scope_dimensions").countP (fun row =>
      Condition.eval matcher tables.database (Function.update (atScope r s) "d" row)
        (ofScope []) = .holds) = (tables.dimensionsOf s).length := by
    rw [BusinessTables.database_dimensions, List.countP_map, BusinessTables.dimensionsOf,
      ← List.countP_eq_length_filter]
    refine List.countP_congr fun d _ => ?_
    have h : Condition.eval matcher tables.database (atDimension r s d) (ofScope []) = .holds ↔
        _ := ofScope_holds
    simpa [atDimension] using h
  rw [Condition.eval, hcount]
  simp [Operand.value]

lemma dimensionCondition_iff :
    Condition.eval matcher tables.database (atScope r s) (dimensionCondition id) ≠ .fails ↔
      (match (scopeItem tables s).dimensions.lookup id with
        | some value => decide (0 < value.length)
        | none => false) = true := by
  rw [dimensionCondition, exists_dimension]
  simp only [List.forall_mem_cons, isText, Condition.eval, Operand.value, atDimension,
    Function.update_self, BusinessScopeDimensionRow.columns, Value.eq_text_text,
    Truth.ofBool_holds, decide_eq_true_eq, Value.charLengthGt, List.not_mem_nil, false_implies,
    implies_true, and_true]
  constructor
  · rintro ⟨d, hd, hid, hlen⟩
    have hl : (scopeItem tables s).dimensions.lookup id = some d.valueId :=
      (lookup_dimension tables s).mpr ⟨d, hd, hid, rfl⟩
    simpa [hl] using hlen
  · intro h
    split at h
    · rename_i value hl
      obtain ⟨d, hd, hid, rfl⟩ := (lookup_dimension tables s).mp hl
      exact ⟨d, hd, hid, by simpa using h⟩
    · cases h

/-- The text `\S` matches exactly the texts that trimming does not empty. -/
def MatchesNonBlank (matcher : String → String → Bool) : Prop :=
  ∀ s, matcher s "\\S" = true ↔ 0 < (trim s).length

lemma storeNameShape_iff (hm : MatchesNonBlank matcher) :
    Condition.eval matcher tables.database (atScope r s)
        (storeNameShape (.placeholder (.text "\\S"))) ≠ .fails ↔
      (match s.ownership, s.storeName with
        | .store, some name => decide (0 < (trim name).length)
        | .store, none => false
        | .group, name => name.isNone) = true := by
  have hown : atScope r s "s" "ownership" = .text s.ownership.text := by simp [atScope,
    BusinessResourceScopeRow.columns]
  have hname : atScope r s "s" "store_name" = nullable .text s.storeName := by simp [atScope,
    BusinessResourceScopeRow.columns]
  simp only [storeNameShape, Condition.isNotNull, Condition.eval, Operand.value, hown, hname]
  cases s.ownership <;> cases hn : s.storeName with
  | none => simp [nullable, BusinessOwnership.text]
  | some name =>
    have := hm name
    simp [nullable, BusinessOwnership.text, Value.regexpLike, this]

/-- The shape of a scope never comes out unknown: it holds exactly on the scopes the domain
accepts in the category. -/
lemma shapeCondition_iff (hm : MatchesNonBlank matcher) (category : BusinessCategoryRule) :
    Condition.eval matcher tables.database (atScope r s) (shapeCondition category) ≠ .fails ↔
      validateBusinessScope (scopeItem tables s) category = true := by
  have hown : (∃ o ∈ category.ownerships, Condition.eval matcher tables.database (atScope r s)
      (isText "s" "ownership" o.text) ≠ .fails) ↔
      category.ownerships.contains s.ownership = true := by
    simp only [isText, Condition.eval, Operand.value, atScope, Function.update_self,
      BusinessResourceScopeRow.columns, Value.eq_text_text, Ne, Truth.ofBool_fails,
      BusinessOwnership.text_inj, decide_eq_false_iff_not, not_not, exists_eq_right',
      List.contains_iff_mem]
  have hkey : Condition.eval matcher tables.database (atScope r s)
      (.charLengthGt (.column "s" "enterprise_key") 0) ≠ .fails ↔ 0 < s.enterpriseKey.length := by
    simp only [Condition.eval, Operand.value, atScope, Function.update_self,
      BusinessResourceScopeRow.columns, Value.charLengthGt, Ne, Truth.ofBool_fails,
      decide_eq_false_iff_not, not_not]
  rw [shapeCondition, Ne, Condition.eval_all_fails]
  simp only [not_exists, not_and, List.forall_mem_cons, List.forall_mem_map, ← Ne.eq_def,
    count_dimensions, dimensionCondition_iff, storeNameShape_iff hm, hkey]
  rw [Ne, Condition.eval_any_fails]
  simp only [List.forall_mem_map, not_forall, ← Ne.eq_def, exists_prop, hown,
    validateBusinessScope, Bool.and_eq_true, decide_eq_true_eq, List.all_eq_true,
    keys_dimensions, Int.natCast_inj]
  simp only [scopeItem, toBusinessScopeItem]
  tauto

/-! ### The grants on a scope -/

variable {env : Aliases} {v : String}

variable {owner column : String}

lemma isText_holds {w : String} (h : env owner column = .text v) :
    Condition.eval matcher tables.database env (isText owner column w) = .holds ↔ w = v := by
  simp only [isText, Condition.eval, Operand.value, h, Value.eq_text_text, Truth.ofBool_holds,
    decide_eq_true_eq]
  exact eq_comm

lemma isText_possible {w : String} (h : env owner column = .text v) :
    Condition.eval matcher tables.database env (isText owner column w) ≠ .fails ↔ w = v := by
  simp only [isText, Condition.eval, Operand.value, h, Value.eq_text_text, Ne,
    Truth.ofBool_fails, decide_eq_false_iff_not, not_not]
  exact eq_comm

lemma any_isText (h : env owner column = .text v) (values : List String) :
    Condition.eval matcher tables.database env (.any (values.map (isText owner column))) =
      .ofBool (values.contains v) := by
  have hc : ∀ w, Condition.eval matcher tables.database env (isText owner column w) =
      .ofBool (decide (v = w)) := by
    intro w
    simp [isText, Condition.eval, Operand.value, h]
  cases hv : values.contains v with
  | true =>
    rw [Truth.ofBool, Condition.eval_any_holds]
    exact ⟨_, List.mem_map.mpr ⟨v, List.contains_iff_mem.mp hv, rfl⟩, by simp [hc]⟩
  | false =>
    rw [Truth.ofBool, Condition.eval_any_fails]
    intro c hmem
    obtain ⟨w, hw, rfl⟩ := List.mem_map.mp hmem
    have hne : v ≠ w := fun e => by simp [e, hw] at hv
    simp [hc, hne]

variable {selection : Option BusinessSelection}

variable (matcher tables) in
lemma fixedConditions_eval (h : env owner column = .text v) (hs : validSelection selection = true) :
    (fixedConditions owner column selection = [] ∧ selected selection (some v) = true) ∨
      ∃ c, fixedConditions owner column selection = [c] ∧
        Condition.eval matcher tables.database env c = .ofBool (selected selection (some v)) := by
  match selection, hs with
  | some .all, _ => exact .inl ⟨rfl, rfl⟩
  | some (.fixed values), _ => exact .inr ⟨_, rfl, any_isText h values⟩

lemma fixedConditions_hold (h : env owner column = .text v) (hs : validSelection selection = true) :
    (∀ c ∈ fixedConditions owner column selection,
      Condition.eval matcher tables.database env c = .holds) ↔
      selected selection (some v) = true := by
  rcases fixedConditions_eval matcher tables h hs with
    ⟨he, hsel⟩ | ⟨c, he, hsel⟩
  · simp [he, hsel]
  · simp [he, hsel]

lemma fixedConditions_possible (h : env owner column = .text v)
    (hs : validSelection selection = true) :
    (∀ c ∈ fixedConditions owner column selection,
      Condition.eval matcher tables.database env c ≠ .fails) ↔
      selected selection (some v) = true := by
  rcases fixedConditions_eval matcher tables h hs with
    ⟨he, hsel⟩ | ⟨c, he, hsel⟩
  · simp [he, hsel]
  · simp [he, hsel]

variable {grant : BusinessGrant}

lemma selectionCondition_iff {value : String}
    (hs : validSelection (grant.dimensions.lookup id) = true)
    (hl : (scopeItem tables s).dimensions.lookup id = some value) :
    Condition.eval matcher tables.database (atScope r s) (selectionCondition grant id) ≠ .fails ↔
      selected (grant.dimensions.lookup id)
        ((scopeItem tables s).dimensions.lookup id) = true := by
  rw [selectionCondition, exists_dimension, hl]
  have hd : ∀ d : BusinessScopeDimensionRow, (∀ c ∈ isText "d" "dimension_id" id ::
      fixedConditions "d" "value_id" (grant.dimensions.lookup id),
      Condition.eval matcher tables.database (atDimension r s d) c = .holds) ↔
      d.dimensionId = id ∧ selected (grant.dimensions.lookup id) (some d.valueId) = true := by
    intro d
    rw [List.forall_mem_cons, fixedConditions_hold (v := d.valueId) (by
      simp [atDimension, BusinessScopeDimensionRow.columns]) hs]
    simp [isText, Condition.eval, Operand.value, atDimension, BusinessScopeDimensionRow.columns]
  simp only [hd]
  obtain ⟨d₀, hd₀, hid₀, hv₀⟩ := (lookup_dimension tables s).mp hl
  constructor
  · rintro ⟨d, hmem, hid, hsel⟩
    have : some d.valueId = some value := by
      rw [← hl]
      exact ((lookup_dimension tables s).mpr ⟨d, hmem, hid, rfl⟩).symm
    rwa [this] at hsel
  · intro hsel
    exact ⟨d₀, hd₀, hid₀, hv₀ ▸ hsel⟩

/-- What the validator says of a grant and one of its categories. -/
structure ValidFor (grant : BusinessGrant) (category : BusinessCategoryRule) : Prop where
  stores : grant.ownership = .store → validSelection grant.stores = true
  dimensions : ∀ id ∈ category.requiredDimensionIds,
    validSelection (grant.dimensions.lookup id) = true

variable {category : BusinessCategoryRule}

lemma validFor_of_relevant {snapshot : AuthorizationSnapshot}
    (hc : category ∈ snapshot.categories) (hg : grant ∈ relevantGrants snapshot category) :
    ValidFor grant category := by
  simp only [relevantGrants, AuthorizationSnapshot.validGrants, List.mem_filter,
    Bool.and_eq_true, decide_eq_true_eq, List.length_eq_zero_iff, List.contains_iff_mem] at hg
  obtain ⟨⟨-, -, hvalid⟩, hid⟩ := hg
  rw [validateBusinessGrant, List.append_eq_nil_iff, List.append_eq_nil_iff] at hvalid
  obtain ⟨⟨-, hstores⟩, hcategories⟩ := hvalid
  constructor
  · intro hown
    rw [hown] at hstores
    by_contra hn
    simp [hn] at hstores
  · have h := List.flatMap_eq_nil_iff.mp hcategories category.id hid
    rw [validateGrantCategory, find_category snapshot hc] at h
    intro id hmem
    by_contra hn
    have hany : (category.requiredDimensionIds.any fun dimension =>
        !validSelection (grant.dimensions.lookup dimension)) = true :=
      List.any_eq_true.mpr ⟨id, hmem, by simp [hn]⟩
    simp only [hany, Bool.or_true, if_true] at h
    split_ifs at h

lemma grantCondition_iff (hg : ValidFor grant category) (hid : category.id ∈ grant.categoryIds)
    (hs : validateBusinessScope (scopeItem tables s) category = true) :
    Condition.eval matcher tables.database (atScope r s) (grantCondition grant category) ≠
        .fails ↔ grantCovers category (scopeItem tables s) grant = true := by
  simp only [validateBusinessScope, Bool.and_eq_true, List.all_eq_true] at hs
  obtain ⟨⟨⟨-, hname⟩, -⟩, hdims⟩ := hs
  have hkey : Condition.eval matcher tables.database (atScope r s)
      (isText "s" "enterprise_key" grant.enterpriseKey) ≠ .fails ↔
      grant.enterpriseKey = (scopeItem tables s).enterpriseKey := by
    exact isText_possible (by simp [atScope, BusinessResourceScopeRow.columns, scopeItem,
      toBusinessScopeItem])
  have hown : Condition.eval matcher tables.database (atScope r s)
      (isText "s" "ownership" grant.ownership.text) ≠ .fails ↔
      grant.ownership = (scopeItem tables s).ownership := by
    rw [isText_possible (v := s.ownership.text) (by
      simp [atScope, BusinessResourceScopeRow.columns]), BusinessOwnership.text_inj]
    rfl
  have hselection : ∀ id ∈ category.requiredDimensionIds,
      (Condition.eval matcher tables.database (atScope r s) (selectionCondition grant id) ≠
        .fails ↔ selected (grant.dimensions.lookup id)
          ((scopeItem tables s).dimensions.lookup id) = true) := by
    intro id hmem
    have hdim := hdims id hmem
    split at hdim
    · rename_i value hl
      exact selectionCondition_iff (hg.dimensions id hmem) hl
    · cases hdim
  have hstore : grant.ownership = (scopeItem tables s).ownership →
      ((∀ c ∈ fixedConditions "s" "store_name"
        (if grant.ownership = .store then grant.stores else none),
        Condition.eval matcher tables.database (atScope r s) c ≠ .fails) ↔
      (decide ((scopeItem tables s).ownership = .group) ||
        selected grant.stores (scopeItem tables s).storeName) = true) := by
    intro he
    rw [← he]
    cases hgo : grant.ownership with
    | group => simp [fixedConditions]
    | store =>
      -- the shape gives a store scope its name, so the comparison with it is decided
      rw [he] at hgo
      rw [hgo] at hname
      obtain ⟨name, hsome⟩ : ∃ name, (scopeItem tables s).storeName = some name := by
        cases hn : (scopeItem tables s).storeName with
        | none => simp [hn] at hname
        | some name => exact ⟨name, rfl⟩
      have hcol : atScope r s "s" "store_name" = .text name := by
        have : s.storeName = some name := hsome
        simp [atScope, BusinessResourceScopeRow.columns, this, nullable]
      rw [if_pos rfl, fixedConditions_possible hcol (hg.stores (he.trans hgo)), hsome]
      simp
  rw [grantCondition, Ne, Condition.eval_all_fails]
  simp only [not_exists, not_and, List.forall_mem_cons, List.forall_mem_append,
    List.forall_mem_map, ← Ne.eq_def, hkey, hown, grantCovers, Bool.and_eq_true,
    decide_eq_true_eq, List.contains_iff_mem, hid, and_true, List.all_eq_true]
  constructor
  · rintro ⟨hk, ho, hst, hsel⟩
    exact ⟨⟨⟨hk, ho⟩, (hstore ho).mp hst⟩, fun id hmem => (hselection id hmem).mp (hsel id hmem)⟩
  · rintro ⟨⟨⟨hk, ho⟩, hst⟩, hsel⟩
    exact ⟨hk, ho, (hstore ho).mpr hst, fun id hmem => (hselection id hmem).mpr (hsel id hmem)⟩

lemma refused_iff (hm : MatchesNonBlank matcher) {snapshot : AuthorizationSnapshot}
    (hc : category ∈ snapshot.categories) :
    Condition.eval matcher tables.database (atScope r s)
        (.or (.not (shapeCondition category)) (.not (.any ((relevantGrants snapshot category).map
          fun grant => grantCondition grant category)))) ≠ .holds ↔
      validateBusinessScope (scopeItem tables s) category = true ∧
        ∃ grant ∈ snapshot.validGrants, grantCovers category (scopeItem tables s) grant = true := by
  simp only [Condition.eval, Ne, Truth.or_holds, Truth.not_holds, not_or]
  rw [← Ne.eq_def, ← Ne.eq_def, shapeCondition_iff hm]
  refine and_congr_right fun hs => ?_
  rw [Ne, Condition.eval_any_fails]
  simp only [List.forall_mem_map, not_forall, ← Ne.eq_def, exists_prop]
  constructor
  · rintro ⟨grant, hg, hcond⟩
    have hmem := List.mem_filter.mp hg
    exact ⟨grant, hmem.1, (grantCondition_iff (validFor_of_relevant hc hg)
      (List.contains_iff_mem.mp hmem.2) hs).mp hcond⟩
  · rintro ⟨grant, hg, hcovers⟩
    have hid : grant.categoryIds.contains category.id = true := by
      simp only [grantCovers, Bool.and_eq_true] at hcovers
      exact hcovers.1.1.1.2
    have hrel : grant ∈ relevantGrants snapshot category := List.mem_filter.mpr ⟨hg, hid⟩
    exact ⟨grant, hrel, (grantCondition_iff (validFor_of_relevant hc hrel)
      (List.contains_iff_mem.mp hid) hs).mpr hcovers⟩

end Scope

end AuthorizedScope
end SmeDataCenter
