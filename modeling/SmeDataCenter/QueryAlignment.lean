import SmeDataCenter.Fallible
import SmeDataCenter.QueryMeaning

/-!
# The parameters of a compiled query stand in their clauses

Every helper of the compiler writes a text and gives parameters that spell the clause it is
for, one lemma a helper. The statement is put together from the texts in one order and the list
from the parameters in the same order, so the list fills the text with the statement of the
query.
-/

namespace SmeDataCenter
namespace StructuredQuery

open Sql Fallible

/-! ### Expressions -/

section

variable {field : StructuredFieldRegistryEntry} {path : Param}

@[simp] lemma prepared_typed : prepared (typedFieldExpression field path).tokens =
    (typedFieldExpression field ()).tokens := by
  unfold typedFieldExpression Expression.tokens
  cases expressionKind field.type <;> rfl

@[simp] lemma parameters_typed : parameters (typedFieldExpression field path).tokens = [path] := by
  unfold typedFieldExpression Expression.tokens
  cases expressionKind field.type <;> rfl

@[simp] lemma prepared_jsonValue : prepared (jsonValueExpression path).tokens =
    (jsonValueExpression ()).tokens := rfl

@[simp] lemma parameters_jsonValue : parameters (jsonValueExpression path).tokens = [path] := rfl

end

variable {field : StructuredFieldRegistryEntry}

lemma fieldExpression_ok {path : String} (h : requireJsonPath field = .ok path) :
    fieldExpression field = .ok (typedFieldExpression field (.text path)) :=
  bind_ok.mpr ⟨path, h, rfl⟩

lemma fieldText_ok {path : String} (h : requireJsonPath field = .ok path) :
    fieldText field = .ok (jsonValueExpression (.text path)) :=
  bind_ok.mpr ⟨path, h, rfl⟩

/-! ### The filter -/

/-- A compiled condition is what its clause says. -/
def FilterSpells (fragment : FilterFragment) (clause : FilterCondition Param) : Prop :=
  Fragment.Spells ⟨fragment.1.tokens, fragment.2⟩ clause.tokens

variable {value : QueryJson}

lemma compileComparison_spells {op : Comparison} {fragment : FilterFragment}
    (h : compileComparison op field value = .ok fragment) :
    ∃ clause, comparisonClause op field value = .ok clause ∧ FilterSpells fragment clause := by
  obtain ⟨path, hpath, h⟩ := bind_ok.mp h
  obtain ⟨param, hparam, h⟩ := bind_ok.mp h
  cases h
  refine ⟨_, bind_ok.mpr ⟨_, fieldExpression_ok hpath, bind_ok.mpr ⟨_, hparam, rfl⟩⟩, ?_⟩
  constructor <;> simp [FilterCondition.tokens]

lemma compileLike_spells {start : String} {fragment : FilterFragment}
    (h : compileLike field start value = .ok fragment) :
    ∃ clause, likeClause field start value = .ok clause ∧ FilterSpells fragment clause := by
  obtain ⟨path, hpath, h⟩ := bind_ok.mp h
  obtain ⟨text, htext, h⟩ := bind_ok.mp h
  cases h
  refine ⟨_, bind_ok.mpr ⟨_, fieldExpression_ok hpath, bind_ok.mpr ⟨_, htext, rfl⟩⟩, ?_⟩
  constructor <;> simp [FilterCondition.tokens]

lemma prepared_placeholders (params : List Param) :
    prepared (joinText ", " (params.map fun param => [.param param])) =
      joinText ", " (params.map fun _ => [.param ()]) := by
  rw [prepared_join, List.map_map]
  rfl

lemma parameters_placeholders (params : List Param) :
    parameters (joinText ", " (params.map fun param => [.param param])) = params := by
  rw [parameters_join, List.flatMap_map]
  induction params with
  | nil => rfl
  | cons param params ih => rw [List.flatMap_cons, ih]; rfl

lemma compileIn_spells {values : List QueryJson} {fragment : FilterFragment}
    (h : compileCondition field "in" (.arr values) = .ok fragment) :
    ∃ clause, conditionClause field "in" (.arr values) = .ok clause ∧
      FilterSpells fragment clause := by
  obtain ⟨path, hpath, h⟩ := bind_ok.mp h
  obtain ⟨params, hparams, h⟩ := bind_ok.mp h
  cases h
  refine ⟨_, bind_ok.mpr ⟨_, fieldExpression_ok hpath, bind_ok.mpr ⟨_, hparams, rfl⟩⟩, ?_⟩
  have hlength : values.length = params.length := (mapM_ok.mp hparams).length_eq
  constructor
  · simp [FilterCondition.tokens, openList, prepared_placeholders, hlength]
  · simp [FilterCondition.tokens, openList, parameters_placeholders]

lemma compileCondition_spells {op : String} {fragment : FilterFragment}
    (h : compileCondition field op value = .ok fragment) :
    ∃ clause, conditionClause field op value = .ok clause ∧ FilterSpells fragment clause := by
  unfold compileCondition at h
  split at h
  · exact compileComparison_spells h
  · exact compileLike_spells h
  · exact compileLike_spells h
  · obtain ⟨path, hpath, h⟩ := bind_ok.mp h
    obtain ⟨start, hstart, h⟩ := bind_ok.mp h
    obtain ⟨stop, hstop, h⟩ := bind_ok.mp h
    cases h
    refine ⟨_, bind_ok.mpr ⟨_, fieldExpression_ok hpath, bind_ok.mpr ⟨_, hstart,
      bind_ok.mpr ⟨_, hstop, rfl⟩⟩⟩, ?_⟩
    constructor <;> simp [FilterCondition.tokens]
  · exact compileIn_spells h
  · exact compileComparison_spells h
  · exact compileComparison_spells h
  · exact compileComparison_spells h
  · exact compileComparison_spells h
  · cases h

lemma spells_parenthesized {fragments : List FilterFragment}
    {clauses : List (FilterCondition Param)} (h : List.Forall₂ FilterSpells fragments clauses) :
    SpellsEach (FilterCondition.tokensOfAll (fragments.map (·.1))) (fragments.flatMap (·.2))
      (FilterCondition.tokensOfAll clauses) := by
  induction h with
  | nil => exact .nil
  | @cons fragment clause fragments clauses head _ ih =>
    refine SpellsEach.append (SpellsEach.singleton (f := ⟨.text "(" :: fragment.1.tokens ++
      [.text ")"], fragment.2⟩) ⟨?_, ?_⟩) ih
    · simpa using head.sql
    · simpa using head.params

mutual

lemma compileFilter_spells {fields : Fields} : ∀ {node : FilterNode} {fragment : FilterFragment},
    compileFilter fields node = .ok fragment →
    ∃ clause, filterClause fields node = .ok clause ∧ FilterSpells fragment clause
  | .and nodes, fragment, h => by
    unfold compileFilter at h
    obtain ⟨fragments, hfragments, h⟩ := bind_ok.mp h
    cases h
    obtain ⟨clauses, hclauses, hall⟩ := compileFilters_spells hfragments
    refine ⟨.and clauses, ?_, (spells_parenthesized hall).join " AND "⟩
    unfold filterClause
    exact bind_ok.mpr ⟨clauses, hclauses, rfl⟩
  | .or nodes, fragment, h => by
    unfold compileFilter at h
    obtain ⟨fragments, hfragments, h⟩ := bind_ok.mp h
    cases h
    obtain ⟨clauses, hclauses, hall⟩ := compileFilters_spells hfragments
    refine ⟨.or clauses, ?_, (spells_parenthesized hall).join " OR "⟩
    unfold filterClause
    exact bind_ok.mpr ⟨clauses, hclauses, rfl⟩
  | .not node, fragment, h => by
    unfold compileFilter at h
    obtain ⟨inner, hinner, h⟩ := bind_ok.mp h
    cases h
    obtain ⟨clause, hclause, hspells⟩ := compileFilter_spells hinner
    refine ⟨.not clause, ?_, ?_, ?_⟩
    · unfold filterClause
      exact bind_ok.mpr ⟨clause, hclause, rfl⟩
    · simpa [FilterCondition.tokens] using hspells.sql
    · simpa [FilterCondition.tokens] using hspells.params
  | .field fieldName op value, fragment, h => by
    unfold compileFilter at h
    obtain ⟨field, hfield, h⟩ := bind_ok.mp h
    obtain ⟨clause, hclause, hspells⟩ := compileCondition_spells h
    refine ⟨clause, ?_, hspells⟩
    unfold filterClause
    exact bind_ok.mpr ⟨field, hfield, hclause⟩

lemma compileFilters_spells {fields : Fields} :
    ∀ {nodes : List FilterNode} {fragments : List FilterFragment},
    compileFilters fields nodes = .ok fragments →
    ∃ clauses, filterClauses fields nodes = .ok clauses ∧
      List.Forall₂ FilterSpells fragments clauses
  | [], fragments, h => by
    unfold compileFilters at h
    cases h
    refine ⟨[], ?_, .nil⟩
    unfold filterClauses
    rfl
  | node :: nodes, fragments, h => by
    unfold compileFilters at h
    obtain ⟨fragment, hfragment, h⟩ := bind_ok.mp h
    obtain ⟨rest, hrest, h⟩ := bind_ok.mp h
    cases h
    obtain ⟨clause, hclause, hspells⟩ := compileFilter_spells hfragment
    obtain ⟨clauses, hclauses, hall⟩ := compileFilters_spells hrest
    refine ⟨clause :: clauses, ?_, .cons hspells hall⟩
    unfold filterClauses
    exact bind_ok.mpr ⟨clause, hclause, bind_ok.mpr ⟨clauses, hclauses, rfl⟩⟩

end

/-! ### The projection -/

/-- Compiled items are what they stand for, one by one. -/
def ItemsSpell (fragment : ItemFragment) (items : List (SelectItem Param)) : Prop :=
  SpellsEach (fragment.1.map SelectItem.tokens) fragment.2 (items.map SelectItem.tokens)

lemma ItemsSpell.append {f g : ItemFragment} {items items' : List (SelectItem Param)}
    (hf : ItemsSpell f items) (hg : ItemsSpell g items') :
    ItemsSpell (f.1 ++ g.1, f.2 ++ g.2) (items ++ items') := by
  unfold ItemsSpell at *
  simpa using SpellsEach.append hf hg

lemma ItemsSpell.flatMap {fragments : List ItemFragment} {items : List (SelectItem Param)}
    (h : List.Forall₂ (fun fragment item => ItemsSpell fragment [item]) fragments items) :
    ItemsSpell (fragments.flatMap (·.1), fragments.flatMap (·.2)) items := by
  induction h with
  | nil => exact .nil
  | cons head _ ih => exact head.append ih

variable {fields : Fields} {fragment : ItemFragment}

lemma fieldAggregateExpression_spells {function : AggregateFunction}
    {fieldName aliasName : String}
    (h : fieldAggregateExpression fields function fieldName aliasName = .ok fragment) :
    ∃ item, fieldAggregateItem fields function fieldName aliasName = .ok item ∧
      ItemsSpell fragment [item] := by
  obtain ⟨field, hfield, h⟩ := bind_ok.mp h
  obtain ⟨path, hpath, h⟩ := bind_ok.mp h
  cases h
  refine ⟨_, bind_ok.mpr ⟨field, hfield, bind_ok.mpr ⟨_, fieldExpression_ok hpath, rfl⟩⟩, ?_⟩
  constructor <;> simp [SelectItem.tokens]

lemma aggregateExpression_spells {aggregate : AggregateSpec}
    (h : aggregateExpression fields aggregate = .ok fragment) :
    ∃ item, aggregateItem fields aggregate = .ok item ∧ ItemsSpell fragment [item] := by
  obtain ⟨aliasName, halias, h⟩ := bind_ok.mp h
  match aggregate with
  | .count none _ =>
    cases h
    refine ⟨_, bind_ok.mpr ⟨aliasName, halias, rfl⟩, ?_⟩
    constructor <;> simp [SelectItem.tokens]
  | .count (some field) _ =>
    obtain ⟨item, hok, hspells⟩ := fieldAggregateExpression_spells h
    exact ⟨item, bind_ok.mpr ⟨aliasName, halias, hok⟩, hspells⟩
  | .onField op field _ =>
    obtain ⟨item, hok, hspells⟩ := fieldAggregateExpression_spells h
    exact ⟨item, bind_ok.mpr ⟨aliasName, halias, hok⟩, hspells⟩
  | .weightedAvg fieldName weightFieldName _ =>
    obtain ⟨field, hfield, h⟩ := bind_ok.mp h
    obtain ⟨weightField, hweight, h⟩ := bind_ok.mp h
    obtain ⟨path, hpath, h⟩ := bind_ok.mp h
    obtain ⟨weightPath, hweightPath, h⟩ := bind_ok.mp h
    cases h
    refine ⟨_, bind_ok.mpr ⟨aliasName, halias, bind_ok.mpr ⟨field, hfield,
      bind_ok.mpr ⟨weightField, hweight, bind_ok.mpr ⟨_, fieldExpression_ok hpath,
        bind_ok.mpr ⟨_, fieldExpression_ok hweightPath, rfl⟩⟩⟩⟩⟩, ?_⟩
    constructor <;> simp [SelectItem.tokens]

lemma groupItem_spells {fieldName : String} (h : groupItem fields fieldName = .ok fragment) :
    ∃ item, groupSelectItem fields fieldName = .ok item ∧ ItemsSpell fragment [item] := by
  obtain ⟨field, hfield, h⟩ := bind_ok.mp h
  obtain ⟨name, hname, h⟩ := bind_ok.mp h
  obtain ⟨path, hpath, h⟩ := bind_ok.mp h
  cases h
  refine ⟨_, bind_ok.mpr ⟨field, hfield, bind_ok.mpr ⟨name, hname,
    bind_ok.mpr ⟨_, fieldText_ok hpath, rfl⟩⟩⟩, ?_⟩
  constructor <;> simp [SelectItem.tokens]

variable {params : List Param}

lemma storedItems_spell {storedFields : List StructuredFieldRegistryEntry}
    {parts : List (SelectItem Unit)} (hparts : storedFields.mapM storedItem = .ok parts)
    (hparams : (storedFields.filter inPayload).mapM pathParam = .ok params) :
    ∃ items, storedFields.mapM storedSelectItem = .ok items ∧
      ItemsSpell (parts, params) items := by
  induction storedFields generalizing parts params with
  | nil =>
    cases hparts
    cases hparams
    exact ⟨[], rfl, .nil⟩
  | cons field storedFields ih =>
    rw [List.mapM_cons] at hparts
    obtain ⟨part, hpart, hparts⟩ := bind_ok.mp hparts
    obtain ⟨rest, hrest, hparts⟩ := bind_ok.mp hparts
    cases hparts
    obtain ⟨storage, hstorage, hpart⟩ := bind_ok.mp hpart
    obtain ⟨name, hname, hpart⟩ := bind_ok.mp hpart
    have hfield : field.storage = some storage := by
      unfold requireStorage at hstorage
      split at hstorage
      · cases hstorage
        assumption
      · cases hstorage
    by_cases hcolumn : storage.column = .sourceDocumentId
    · rw [List.filter_cons_of_neg (by simp [inPayload, hfield, hcolumn])] at hparams
      rw [if_pos hcolumn] at hpart
      cases hpart
      obtain ⟨items, hitems, hspells⟩ := ih hrest hparams
      refine ⟨.sourceDocumentId name :: items, ?_, ?_⟩
      · rw [List.mapM_cons]
        refine bind_ok.mpr ⟨_, ?_, bind_ok.mpr ⟨items, hitems, rfl⟩⟩
        refine bind_ok.mpr ⟨storage, hstorage, bind_ok.mpr ⟨name, hname, ?_⟩⟩
        rw [if_pos hcolumn]
        rfl
      · have hitem : ItemsSpell ([.sourceDocumentId name], []) [.sourceDocumentId name] := by
          constructor <;> simp [SelectItem.tokens]
        exact hitem.append hspells
    · have hpayload : storage.column = .payload := by
        cases hc : storage.column with
        | payload => rfl
        | sourceDocumentId => exact absurd hc hcolumn
      rw [List.filter_cons_of_pos (by simp [inPayload, hfield, hpayload]),
        List.mapM_cons] at hparams
      obtain ⟨param, hparam, hparams⟩ := bind_ok.mp hparams
      obtain ⟨params', hparams', hparams⟩ := bind_ok.mp hparams
      cases hparams
      obtain ⟨path, hpath, hparam⟩ := bind_ok.mp hparam
      cases hparam
      rw [if_neg hcolumn] at hpart
      cases hpart
      obtain ⟨items, hitems, hspells⟩ := ih hrest hparams'
      refine ⟨.value (jsonValueExpression (.text path)) name :: items, ?_, ?_⟩
      · rw [List.mapM_cons]
        refine bind_ok.mpr ⟨_, ?_, bind_ok.mpr ⟨items, hitems, rfl⟩⟩
        refine bind_ok.mpr ⟨storage, hstorage, bind_ok.mpr ⟨name, hname, ?_⟩⟩
        rw [if_neg hcolumn]
        exact bind_ok.mpr ⟨_, fieldText_ok hpath, rfl⟩
      · have hitem : ItemsSpell ([.value (jsonValueExpression ()) name], [.text path])
            [.value (jsonValueExpression (.text path)) name] := by
          constructor <;> simp [SelectItem.tokens]
        exact hitem.append hspells

lemma supplierNameItem_spells {chosen : List StructuredFieldRegistryEntry}
    (h : supplierNameItem fields chosen = .ok fragment) :
    ∃ items, supplierSelectItems fields chosen = .ok items ∧ ItemsSpell fragment items := by
  unfold supplierNameItem at h
  unfold supplierSelectItems
  split at h
  · rename_i hdynamic
    rw [if_pos hdynamic]
    obtain ⟨name, hname, h⟩ := bind_ok.mp h
    obtain ⟨field, hfield, h⟩ := bind_ok.mp h
    obtain ⟨path, hpath, h⟩ := bind_ok.mp h
    cases h
    refine ⟨_, bind_ok.mpr ⟨name, hname, bind_ok.mpr ⟨field, hfield,
      bind_ok.mpr ⟨_, fieldText_ok hpath, rfl⟩⟩⟩, ?_⟩
    constructor <;> simp [SelectItem.tokens]
  · rename_i hdynamic
    rw [if_neg hdynamic]
    cases h
    exact ⟨[], rfl, .nil⟩

variable {query : NormalizedQuery}

lemma buildProjection_spells {mode : StructuredQueryMode}
    (h : buildProjection query fields mode = .ok fragment) :
    ∃ items, projectionItems query fields mode = .ok items ∧ ItemsSpell fragment items := by
  cases mode with
  | aggregate =>
    obtain ⟨groups, hgroups, h⟩ := bind_ok.mp h
    obtain ⟨aggregates, haggregates, h⟩ := bind_ok.mp h
    cases h
    obtain ⟨groupItems, hgroupItems, hg⟩ :=
      mapM_related (R := fun fragment item => ItemsSpell fragment [item]) hgroups
        fun _ _ _ => groupItem_spells
    obtain ⟨items, hitems, ha⟩ :=
      mapM_related (R := fun fragment item => ItemsSpell fragment [item]) haggregates
        fun _ _ _ => aggregateExpression_spells
    exact ⟨groupItems ++ items,
      bind_ok.mpr ⟨groupItems, hgroupItems, bind_ok.mpr ⟨items, hitems, rfl⟩⟩,
      ItemsSpell.flatMap (List.rel_append hg ha)⟩
  | detail =>
    obtain ⟨chosen, hchosen, h⟩ := bind_ok.mp h
    obtain ⟨parts, hparts, h⟩ := bind_ok.mp h
    obtain ⟨params, hparams, h⟩ := bind_ok.mp h
    obtain ⟨supplier, hsupplier, h⟩ := bind_ok.mp h
    cases h
    obtain ⟨items, hitems, hspells⟩ := storedItems_spell hparts hparams
    obtain ⟨supplierItems, hsupplierItems, hsupplierSpells⟩ := supplierNameItem_spells hsupplier
    exact ⟨items ++ supplierItems, bind_ok.mpr ⟨chosen, hchosen, bind_ok.mpr ⟨items, hitems,
      bind_ok.mpr ⟨supplierItems, hsupplierItems, rfl⟩⟩⟩, hspells.append hsupplierSpells⟩

/-! ### The scope and the order -/

lemma baseFromAndWhere_spells (input : CompileInput) (registry : StructuredDatasetRegistry) :
    Fragment.Spells ⟨(baseFromAndWhere input registry).1.tokens, (baseFromAndWhere input registry).2⟩
      (baseScope input registry).tokens := by
  unfold baseFromAndWhere baseScope rowGuard
  cases hauthorization : input.businessAuthorization with
  | none => exact ⟨rfl, rfl⟩
  | some authorization =>
    constructor
    · have hsql : authorization.sql = prepared authorization.filled := authorization.spells.sql
      simp [BaseScope.tokens, RowGuard.tokens, hsql]
    · have hparams : authorization.params = parameters authorization.filled :=
        authorization.spells.params
      simp [BaseScope.tokens, RowGuard.tokens, hparams]

/-- Compiled sort keys are what they stand for, one by one. -/
def OrderSpells (fragment : List (OrderItem Unit) × List Param)
    (items : List (OrderItem Param)) : Prop :=
  SpellsEach (fragment.1.map OrderItem.tokens) fragment.2 (items.map OrderItem.tokens)

lemma orderExpressions_spell {sort : List SortSpec} {keys : List (OrderItem Unit)}
    (hkeys : sort.mapM (orderExpression fields) = .ok keys)
    (hparams : sort.mapM (fun item => do pathParam (← requireField fields item.field)) =
      .ok params) :
    ∃ items, sort.mapM (orderKey fields) = .ok items ∧ OrderSpells (keys, params) items := by
  induction sort generalizing keys params with
  | nil =>
    cases hkeys
    cases hparams
    exact ⟨[], rfl, .nil⟩
  | cons item sort ih =>
    rw [List.mapM_cons] at hkeys hparams
    obtain ⟨key, hkey, hkeys⟩ := bind_ok.mp hkeys
    obtain ⟨keys', hkeys', hkeys⟩ := bind_ok.mp hkeys
    cases hkeys
    obtain ⟨param, hparam, hparams⟩ := bind_ok.mp hparams
    obtain ⟨params', hparams', hparams⟩ := bind_ok.mp hparams
    cases hparams
    obtain ⟨field, hfield, hkey⟩ := bind_ok.mp hkey
    cases hkey
    obtain ⟨field', hfield', hparam⟩ := bind_ok.mp hparam
    cases hfield.symm.trans hfield'
    obtain ⟨path, hpath, hparam⟩ := bind_ok.mp hparam
    cases hparam
    obtain ⟨items, hitems, hspells⟩ := ih hkeys' hparams'
    refine ⟨.expression (typedFieldExpression field (.text path)) item.direction.order :: items,
      ?_, ?_⟩
    · rw [List.mapM_cons]
      exact bind_ok.mpr ⟨_, bind_ok.mpr ⟨field, hfield, bind_ok.mpr ⟨_, fieldExpression_ok hpath,
        rfl⟩⟩, bind_ok.mpr ⟨items, hitems, rfl⟩⟩
    · have hitem : OrderSpells
          ([.expression (typedFieldExpression field ()) item.direction.order], [.text path])
          [.expression (typedFieldExpression field (.text path)) item.direction.order] := by
        constructor <;> simp [OrderItem.tokens]
      exact SpellsEach.append hitem hspells

lemma orderNames_spell {sort : List SortSpec} {keys : List (OrderItem Unit)}
    (h : sort.mapM orderName = .ok keys) :
    ∃ items, sort.mapM orderAlias = .ok items ∧ OrderSpells (keys, []) items := by
  induction sort generalizing keys with
  | nil =>
    cases h
    exact ⟨[], rfl, .nil⟩
  | cons item sort ih =>
    rw [List.mapM_cons] at h
    obtain ⟨key, hkey, h⟩ := bind_ok.mp h
    obtain ⟨keys', hkeys', h⟩ := bind_ok.mp h
    cases h
    obtain ⟨name, hname, hkey⟩ := bind_ok.mp hkey
    cases hkey
    obtain ⟨items, hitems, hspells⟩ := ih hkeys'
    refine ⟨.named name item.direction.order :: items, ?_, ?_⟩
    · rw [List.mapM_cons]
      exact bind_ok.mpr ⟨_, bind_ok.mpr ⟨name, hname, rfl⟩, bind_ok.mpr ⟨items, hitems, rfl⟩⟩
    · have hitem : OrderSpells ([.named name item.direction.order], [])
          [.named name item.direction.order] := by
        constructor <;> simp [OrderItem.tokens]
      exact SpellsEach.append hitem hspells

lemma buildOrderBy_spells {mode : StructuredQueryMode}
    {fragment : List (OrderItem Unit) × List Param}
    (h : buildOrderBy query fields mode = .ok fragment) :
    ∃ items, orderItems query fields mode = .ok items ∧ OrderSpells fragment items := by
  cases mode with
  | aggregate =>
    obtain ⟨keys, hkeys, h⟩ := bind_ok.mp h
    cases h
    exact orderNames_spell hkeys
  | detail =>
    obtain ⟨keys, hkeys, h⟩ := bind_ok.mp h
    obtain ⟨params, hparams, h⟩ := bind_ok.mp h
    cases h
    obtain ⟨items, hitems, hspells⟩ := orderExpressions_spell hkeys hparams
    refine ⟨items ++ [.sourceRowNumber, .rowId], bind_ok.mpr ⟨items, hitems, rfl⟩, ?_⟩
    have hties : OrderSpells ([.sourceRowNumber, .rowId], []) [.sourceRowNumber, .rowId] := by
      constructor <;> simp [OrderItem.tokens]
    unfold OrderSpells at *
    simpa using SpellsEach.append hspells hties

/-! ### The statement -/

lemma listClause_spells {texts : List PreparedText} {tokens : List (List (Token Param))}
    (h : SpellsEach texts params tokens) (keyword : String) :
    Fragment.Spells ⟨listClause keyword texts, params⟩ (listClause keyword tokens) := by
  have hempty : texts.isEmpty = tokens.isEmpty := by
    rw [h.texts]
    cases tokens <;> rfl
  unfold listClause
  rw [hempty]
  split
  · rename_i hnil
    rw [List.isEmpty_iff] at hnil
    exact ⟨rfl, by rw [h.params, hnil]; rfl⟩
  · have hjoin := h.join ", "
    constructor
    · simpa using hjoin.sql
    · simpa using hjoin.params

lemma groupBy_spells (names : List String) :
    Fragment.Spells (α := Param)
      ⟨listClause " GROUP BY " (names.map fun name => [.text (quotedName name)]), []⟩
      (listClause " GROUP BY " (names.map fun name => [.text (quotedName name)])) := by
  refine listClause_spells ⟨?_, ?_⟩ _
  · rw [List.map_map]
    rfl
  · induction names with
    | nil => rfl
    | cons name names ih => simp

lemma compileOptionalFilter_spells {filter : Option FilterNode} {fragment : Option FilterFragment}
    (h : compileOptionalFilter fields filter = .ok fragment) :
    ∃ clause, optionalFilterClause fields filter = .ok clause ∧
      Fragment.Spells ⟨filterTokens (fragment.map (·.1)), (fragment.map (·.2)).getD []⟩
        (filterTokens clause) := by
  cases filter with
  | none =>
    cases h
    exact ⟨none, rfl, rfl, rfl⟩
  | some node =>
    obtain ⟨inner, hinner, h⟩ := bind_ok.mp h
    cases h
    obtain ⟨clause, hclause, hspells⟩ := compileFilter_spells hinner
    refine ⟨some clause, bind_ok.mpr ⟨clause, hclause, rfl⟩, ?_, ?_⟩
    · simpa [filterTokens] using hspells.sql
    · simpa [filterTokens] using hspells.params

/-- **The list fills the text with the statement of the query.** -/
lemma compileNormalizedQuery_spells {services : QueryServices} {input : CompileInput}
    {registry : StructuredDatasetRegistry} {compiled : StructuredCompiledQuery}
    (h : compileNormalizedQuery services input query registry = .ok compiled) :
    ∃ rowTable statement, registry.rowTable = some rowTable ∧
      queryStatement input query registry rowTable compiled.offset = .ok statement ∧
      Fragment.Spells ⟨compiled.sql, compiled.params⟩ statement.tokens := by
  unfold compileNormalizedQuery at h
  cases htable : registry.rowTable with
  | none =>
    rw [htable] at h
    cases h
  | some rowTable =>
    rw [htable] at h
    obtain ⟨-, -, h⟩ := bind_ok.mp h
    obtain ⟨-, -, h⟩ := bind_ok.mp h
    obtain ⟨-, -, h⟩ := bind_ok.mp h
    obtain ⟨-, -, h⟩ := bind_ok.mp h
    obtain ⟨offset, -, h⟩ := bind_ok.mp h
    obtain ⟨dynamic, -, h⟩ := bind_ok.mp h
    obtain ⟨projection, hprojection, h⟩ := bind_ok.mp h
    obtain ⟨filter, hfilter, h⟩ := bind_ok.mp h
    obtain ⟨order, horder, h⟩ := bind_ok.mp h
    obtain ⟨groupBy, hgroupBy, h⟩ := bind_ok.mp h
    cases h
    obtain ⟨items, hitems, hprojectionSpells⟩ := buildProjection_spells hprojection
    obtain ⟨clause, hclause, hfilterSpells⟩ := compileOptionalFilter_spells hfilter
    obtain ⟨keys, hkeys, horderSpells⟩ := buildOrderBy_spells horder
    refine ⟨rowTable, _, rfl, bind_ok.mpr ⟨items, hitems, bind_ok.mpr ⟨clause, hclause,
      bind_ok.mpr ⟨keys, hkeys, bind_ok.mpr ⟨groupBy, hgroupBy, rfl⟩⟩⟩⟩, ?_⟩
    obtain ⟨hselect, hselectParams⟩ := Fragment.spells_mk.mp (hprojectionSpells.join ", ")
    obtain ⟨hscope, hscopeParams⟩ :=
      Fragment.spells_mk.mp (baseFromAndWhere_spells input registry)
    obtain ⟨hwhere, hwhereParams⟩ := Fragment.spells_mk.mp hfilterSpells
    obtain ⟨hgroup, hgroupParams⟩ := Fragment.spells_mk.mp (groupBy_spells groupBy)
    obtain ⟨horderBy, horderParams⟩ :=
      Fragment.spells_mk.mp (listClause_spells horderSpells " ORDER BY ")
    constructor
    · simp [Statement.tokens, hselect, hscope, hwhere, ← hgroup, horderBy]
    · simp [Statement.tokens, ← hselectParams, ← hscopeParams, ← hwhereParams, ← hgroupParams,
        ← horderParams]

end StructuredQuery
end SmeDataCenter
