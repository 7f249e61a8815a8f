import SmeDataCenter.QueryResults
import SmeDataCenter.ParameterAlignment

/-!
# The order of results

Which statements sort their results by keys that no two results share: those whose sort ends with
an identifier, and those whose groups are sorted by all that they are grouped by.
-/

namespace SmeDataCenter
namespace StructuredQuery

open Sql Fallible

variable {mysql : Mysql} {content : Content mysql} {statement : Statement Param}

/-! ### Keys that tell results apart -/

lemma SortOrder.key_injective (order : SortOrder) : Function.Injective order.key := by
  intro a b h
  cases order with
  | asc => exact Sum.inl_injective h
  | desc => exact Sum.inr_injective h

lemma selected_keys_nodup (content : Content mysql) (statement : Statement Param) :
    ((statement.selected content).map fun row => mysql.textKey row.id).Nodup :=
  (content.rowKeys statement.rowTable).sublist (List.filter_sublist.map _)

lemma detail_keys_nodup {keys : List (OrderItem Param)}
    (hdetail : statement.isAggregate = false)
    (horder : statement.orderBy = keys ++ [.sourceRowNumber, .rowId]) :
    ((statement.results content).map (statement.orderKey mysql)).Nodup := by
  apply List.Nodup.of_map List.getLast?
  have hlast : ∀ row : StoredRow,
      (statement.orderKey mysql (.row row)).getLast? =
        some (SortOrder.asc.key (mysql.textKey row.id : List ℚ)) := by
    intro row
    simp [Statement.orderKey, horder, OrderItem.key, QueryResult.rows, headKey]
  have hresults : statement.results content = (statement.selected content).map .row := by
    unfold Statement.results
    rw [if_neg (by simp [hdetail])]
  rw [hresults, List.map_map, List.map_map]
  have hkeys := (selected_keys_nodup content statement).map
    (f := fun key => some (SortOrder.asc.key (key : List ℚ)))
    (fun a b h => by simpa using SortOrder.asc.key_injective (Option.some.inj h))
  rw [List.map_map] at hkeys
  refine (List.map_congr_left ?_ ▸ hkeys)
  intro row _
  exact (hlast row).symm

lemma card_keys_nodup {statement : CardStatement} {order : SortOrder}
    (h : ("c.id", order) ∈ statement.orderBy) :
    ((statement.results content).map (statement.orderKey mysql)).Nodup := by
  obtain ⟨i, hi, hat⟩ := List.getElem_of_mem h
  apply List.Nodup.of_map fun keys => keys[i]?
  have hidentity : ∀ card : CardColumns,
      (statement.orderKey mysql (.card card))[i]? =
        some (order.key (mysql.textKey card.id : List ℚ)) := by
    intro card
    simp [CardStatement.orderKey, List.getElem?_eq_getElem hi, hat, CardColumns.key]
  have hkeys := ((content.cardKeys.sublist (List.filter_sublist.map _)).map
    (f := fun key => some (order.key (key : List ℚ)))
    (fun a b h => by simpa using order.key_injective (Option.some.inj h)) :
      ((((content.cards.filter (content.meets statement.conditions)).map
        fun card => mysql.textKey card.id)).map _).Nodup)
  unfold CardStatement.results
  rw [List.map_map, List.map_map]
  rw [List.map_map] at hkeys
  refine (List.map_congr_left ?_ ▸ hkeys)
  intro card _
  exact (hidentity card).symm

/-! ### Groups -/

/-- What the rows are grouped by is read from the rows. -/
def Statement.ReadsGroups (statement : Statement Param) : Prop :=
  ∀ name ∈ statement.groupBy, ∀ item,
    statement.items.find? (fun item => item.name = name) = some item → item.isAggregate = false

variable {item : SelectItem Param}

lemma SelectItem.eval_of_head (h : item.isAggregate = false) (row : StoredRow)
    (rows : List StoredRow) : item.eval mysql (row :: rows) = item.eval mysql [row] := by
  cases item with
  | sourceDocumentId | value => rfl
  | countRows | aggregate | weightedAvg => simp [SelectItem.isAggregate] at h

lemma column_of_head (h : statement.ReadsGroups) {name : String} (hname : name ∈ statement.groupBy)
    (row : StoredRow) (rows : List StoredRow) :
    statement.column mysql name (row :: rows) = statement.column mysql name [row] := by
  unfold Statement.column
  cases hitem : statement.items.find? fun item => item.name = name with
  | none => rfl
  | some item => exact SelectItem.eval_of_head (h name hname item hitem) row rows

lemma group_columns (h : statement.ReadsGroups) {rows : List StoredRow} {key : List SortKey}
    (hkey : key ∈ rows.map (statement.groupKey mysql)) :
    statement.groupBy.map (fun name =>
      (statement.column mysql name (statement.members mysql rows key)).sortKey mysql) = key := by
  obtain ⟨row, hrow, rfl⟩ := List.mem_map.mp hkey
  have hmember : row ∈ statement.members mysql rows (statement.groupKey mysql row) :=
    List.mem_filter.mpr ⟨hrow, decide_eq_true rfl⟩
  obtain ⟨first, rest, hmembers⟩ := List.exists_cons_of_ne_nil (List.ne_nil_of_mem hmember)
  have hfirst : statement.groupKey mysql first = statement.groupKey mysql row := by
    have hmem : first ∈ statement.members mysql rows (statement.groupKey mysql row) := by
      rw [hmembers]
      exact List.mem_cons_self
    exact of_decide_eq_true (List.mem_filter.mp hmem).2
  rw [hmembers, ← hfirst]
  refine List.map_congr_left fun name hname => ?_
  rw [column_of_head h hname]

lemma group_keys_nodup (haggregate : statement.isAggregate = true) (h : statement.ReadsGroups)
    (horder : statement.orderBy = statement.groupBy.map fun name => .named name .asc) :
    ((statement.results content).map (statement.orderKey mysql)).Nodup := by
  unfold Statement.results Statement.groups
  rw [if_pos haggregate]
  split_ifs with hempty
  · exact List.nodup_singleton _
  · rw [List.map_map]
    have hkeys : ((statement.selected content).map (statement.groupKey mysql)).dedup.map
        (statement.orderKey mysql ∘ fun key =>
          .group key (statement.members mysql (statement.selected content) key)) =
        ((statement.selected content).map (statement.groupKey mysql)).dedup.map
          (List.map SortOrder.asc.key) := by
      refine List.map_congr_left fun key hmem => ?_
      conv_rhs => rw [← group_columns h (List.mem_dedup.mp hmem), List.map_map]
      rw [Function.comp_apply, Statement.orderKey, horder, List.map_map]
      rfl
    rw [hkeys]
    exact (List.nodup_dedup _).map (List.map_injective_iff.mpr SortOrder.asc.key_injective)

lemma results_nodup (content : Content mysql) (statement : Statement Param) :
    (statement.results content).Nodup := by
  unfold Statement.results Statement.groups
  split_ifs with haggregate hempty
  · exact List.nodup_singleton _
  · refine (List.nodup_dedup _).map ?_
    intro a b h
    cases h
    rfl
  · refine (List.Nodup.of_map _ (selected_keys_nodup content statement)).map ?_
    intro a b h
    cases h
    rfl

lemma card_results_nodup (content : Content mysql) (statement : CardStatement) :
    (statement.results content).Nodup := by
  refine ((List.Nodup.of_map _ content.cardKeys).filter _).map ?_
  intro a b h
  cases h
  rfl

lemma QueryPlan.results_nodup (content : Content mysql) (plan : QueryPlan) :
    (plan.results content).Nodup := by
  cases plan with
  | rows statement => exact StructuredQuery.results_nodup content statement
  | cards statement => exact card_results_nodup content statement

/-! ### The statements of queries -/

variable {input : CompileInput} {query : NormalizedQuery} {registry : StructuredDatasetRegistry}
  {rowTable : String} {offset : ℕ}

variable {field : StructuredFieldRegistryEntry}

lemma requireField_name {fieldName : String}
    (h : requireField (fieldsOf registry) fieldName = .ok field) :
    field.canonicalName = fieldName := by
  unfold requireField at h
  cases hlookup : (fieldsOf registry).lookup fieldName with
  | none =>
    rw [hlookup] at h
    cases h
  | some found =>
    rw [hlookup] at h
    cases h
    unfold fieldsOf at hlookup
    rw [AList.lookup_to_alist] at hlookup
    obtain ⟨entry, -, hentry⟩ := List.mem_map.mp (List.of_mem_dlookup hlookup)
    rw [Sigma.mk.injEq] at hentry
    obtain ⟨hname, hfield⟩ := hentry
    rw [← eq_of_heq hfield, hname]

lemma storedSelectItem_plain (h : storedSelectItem field = .ok item) : item.isAggregate = false := by
  obtain ⟨storage, -, h⟩ := bind_ok.mp h
  obtain ⟨name, -, h⟩ := bind_ok.mp h
  split_ifs at h with hcolumn
  · cases h
    rfl
  · obtain ⟨e, -, h⟩ := bind_ok.mp h
    cases h
    rfl

variable {fields : Fields}

lemma supplierSelectItems_plain {chosen : List StructuredFieldRegistryEntry}
    {items : List (SelectItem Param)} (h : supplierSelectItems fields chosen = .ok items) :
    ∀ item ∈ items, item.isAggregate = false := by
  unfold supplierSelectItems at h
  split_ifs at h
  · obtain ⟨name, -, h⟩ := bind_ok.mp h
    obtain ⟨field, -, h⟩ := bind_ok.mp h
    obtain ⟨e, -, h⟩ := bind_ok.mp h
    cases h
    simp [SelectItem.isAggregate]
  · cases h
    simp

lemma queryStatement_detail
    (h : queryStatement input query registry rowTable offset = .ok statement)
    (hmode : query.mode = .detail) :
    statement.isAggregate = false ∧
      ∃ keys, statement.orderBy = keys ++ [.sourceRowNumber, .rowId] := by
  obtain ⟨items, hitems, h⟩ := bind_ok.mp h
  obtain ⟨filter, -, h⟩ := bind_ok.mp h
  obtain ⟨orderBy, horder, h⟩ := bind_ok.mp h
  obtain ⟨groupBy, hgroup, h⟩ := bind_ok.mp h
  cases h
  rw [hmode] at hitems horder
  unfold groupNames at hgroup
  rw [if_neg (by simp [hmode])] at hgroup
  cases hgroup
  obtain ⟨chosen, -, hitems⟩ := bind_ok.mp hitems
  obtain ⟨stored, hstored, hitems⟩ := bind_ok.mp hitems
  obtain ⟨supplier, hsupplier, hitems⟩ := bind_ok.mp hitems
  cases hitems
  obtain ⟨keys, -, horder⟩ := bind_ok.mp horder
  cases horder
  refine ⟨?_, keys, rfl⟩
  have hplain : ∀ item ∈ stored ++ supplier, item.isAggregate = false := by
    intro item hitem
    rcases List.mem_append.mp hitem with hitem | hitem
    · obtain ⟨field, -, hfield⟩ := exists_of_mapM hstored hitem
      exact storedSelectItem_plain hfield
    · exact supplierSelectItems_plain hsupplier item hitem
  have hnone : (stored ++ supplier).any SelectItem.isAggregate = false := by
    rw [List.any_eq_false]
    intro item hitem
    simp [hplain item hitem]
  exact hnone

lemma groupSelectItem_named {fieldName : String} (h : groupSelectItem fields fieldName = .ok item) :
    ∃ field, requireField fields fieldName = .ok field ∧
      quoteIdentifier field.canonicalName = .ok item.name ∧ item.isAggregate = false := by
  obtain ⟨field, hfield, h⟩ := bind_ok.mp h
  obtain ⟨name, hname, h⟩ := bind_ok.mp h
  obtain ⟨e, -, h⟩ := bind_ok.mp h
  cases h
  exact ⟨field, hfield, hname, rfl⟩

lemma aggregateItem_isAggregate {aggregate : AggregateSpec}
    (h : aggregateItem fields aggregate = .ok item) : item.isAggregate = true := by
  have hfield : ∀ {function : AggregateFunction} {fieldName aliasName : String},
      fieldAggregateItem fields function fieldName aliasName = .ok item →
        item.isAggregate = true := by
    intro function fieldName aliasName h
    obtain ⟨field, -, h⟩ := bind_ok.mp h
    obtain ⟨e, -, h⟩ := bind_ok.mp h
    cases h
    rfl
  obtain ⟨aliasName, -, h⟩ := bind_ok.mp h
  cases aggregate with
  | count field =>
    cases field with
    | none =>
      cases h
      rfl
    | some field => exact hfield h
  | onField op field => exact hfield h
  | weightedAvg fieldName weightFieldName =>
    obtain ⟨field, -, h⟩ := bind_ok.mp h
    obtain ⟨weightField, -, h⟩ := bind_ok.mp h
    obtain ⟨e, -, h⟩ := bind_ok.mp h
    obtain ⟨weight, -, h⟩ := bind_ok.mp h
    cases h
    rfl

lemma group_items_found {fieldNames names : List String}
    {groups aggregates : List (SelectItem Param)}
    (hgroups : fieldNames.mapM (groupSelectItem fields) = .ok groups)
    (hnames : fieldNames.mapM (fun fieldName => do
      let field ← requireField fields fieldName
      quoteIdentifier field.canonicalName) = .ok names) {name : String} (hname : name ∈ names)
    (hitem : (groups ++ aggregates).find? (fun item => item.name = name) = some item) :
    item.isAggregate = false := by
  obtain ⟨fieldName, hfieldName, hquote⟩ := exists_of_mapM hnames hname
  obtain ⟨field, hfield, hquote⟩ := bind_ok.mp hquote
  obtain ⟨column, hcolumn, hselect⟩ := mapM_of_mem hgroups hfieldName
  obtain ⟨field', hfield', hquote', -⟩ := groupSelectItem_named hselect
  cases hfield.symm.trans hfield'
  have hsame : column.name = name := by
    cases hquote.symm.trans hquote'
    rfl
  -- the group columns stand first, so one of them is found
  rw [List.find?_append] at hitem
  cases hfind : groups.find? fun item => item.name = name with
  | none =>
    have := List.find?_eq_none.mp hfind column hcolumn
    simp [hsame] at this
  | some found =>
    rw [hfind, Option.some_or] at hitem
    cases hitem
    obtain ⟨fieldName', -, hselect'⟩ := exists_of_mapM hgroups (List.mem_of_find?_eq_some hfind)
    obtain ⟨-, -, -, hplain⟩ := groupSelectItem_named hselect'
    exact hplain

lemma group_names_order {fieldNames names : List String} {orderBy : List (OrderItem Param)}
    (hnames : fieldNames.mapM (fun fieldName => do
      let field ← requireField (fieldsOf registry) fieldName
      quoteIdentifier field.canonicalName) = .ok names)
    (horder : (fieldNames.map fun field => (⟨field, .asc⟩ : SortSpec)).mapM orderAlias =
      .ok orderBy) :
    orderBy = names.map fun name => .named name .asc := by
  induction fieldNames generalizing names orderBy with
  | nil =>
    cases hnames
    cases horder
    rfl
  | cons fieldName fieldNames ih =>
    rw [List.mapM_cons] at hnames
    rw [List.map_cons, List.mapM_cons] at horder
    obtain ⟨name, hname, hnames⟩ := bind_ok.mp hnames
    obtain ⟨names', hnames', hnames⟩ := bind_ok.mp hnames
    cases hnames
    obtain ⟨key, hkey, horder⟩ := bind_ok.mp horder
    obtain ⟨keys, hkeys, horder⟩ := bind_ok.mp horder
    cases horder
    obtain ⟨field, hfield, hname⟩ := bind_ok.mp hname
    obtain ⟨name', hname', hkey⟩ := bind_ok.mp hkey
    cases hkey
    rw [requireField_name hfield] at hname
    cases hname.symm.trans hname'
    rw [ih hnames' hkeys]
    rfl

/-- The results of an aggregate query are groups, sorted by what they are grouped by unless the
client has a sort of its own. -/
lemma queryStatement_aggregate
    (h : queryStatement input query registry rowTable offset = .ok statement)
    (hmode : query.mode = .aggregate) :
    statement.isAggregate = true ∧ statement.ReadsGroups ∧
      (query.sort = [] →
        statement.orderBy = statement.groupBy.map fun name => .named name .asc) := by
  obtain ⟨items, hitems, h⟩ := bind_ok.mp h
  obtain ⟨filter, -, h⟩ := bind_ok.mp h
  obtain ⟨orderBy, horder, h⟩ := bind_ok.mp h
  obtain ⟨names, hnames, h⟩ := bind_ok.mp h
  cases h
  rw [hmode] at hitems horder
  unfold groupNames at hnames
  rw [if_pos hmode] at hnames
  obtain ⟨groups, hgroups, hitems⟩ := bind_ok.mp hitems
  obtain ⟨aggregates, haggregates, hitems⟩ := bind_ok.mp hitems
  cases hitems
  refine ⟨?_, fun name hname item hitem => group_items_found hgroups hnames hname hitem, ?_⟩
  · by_cases hgroupBy : query.groupBy = []
    · have hsome : query.aggregates ≠ [] := by
        rintro hnil
        simp [NormalizedQuery.mode, queryMode, hgroupBy, hnil] at hmode
      obtain ⟨aggregate, haggregate⟩ := List.exists_mem_of_ne_nil _ hsome
      obtain ⟨item, hitem, hselect⟩ := mapM_of_mem haggregates haggregate
      have hany : (groups ++ aggregates).any SelectItem.isAggregate = true :=
        List.any_eq_true.mpr ⟨item, List.mem_append_right _ hitem,
          aggregateItem_isAggregate hselect⟩
      unfold Statement.isAggregate
      rw [hany, Bool.or_true]
    · obtain ⟨fieldName, hfieldName⟩ := List.exists_mem_of_ne_nil _ hgroupBy
      obtain ⟨name, hname, -⟩ := mapM_of_mem hnames hfieldName
      have hfilled : names.isEmpty = false := List.isEmpty_eq_false_iff.mpr
        (List.ne_nil_of_mem hname)
      unfold Statement.isAggregate
      rw [hfilled]
      rfl
  · intro hsort
    unfold orderItems aggregateSort at horder
    rw [if_neg (by simp [hsort])] at horder
    exact group_names_order hnames horder

lemma costCardColumn_id {column : String}
    (h : costCardColumn "cost_card_id" = .ok (field, column)) : column = "c.id" := by
  unfold costCardColumn at h
  cases hlookup : (fieldsOf costCardDirectoryRegistry).lookup "cost_card_id" with
  | none =>
    rw [hlookup] at h
    cases h
  | some found =>
    rw [hlookup] at h
    cases h
    rfl

lemma costCardSortColumns_id {sort : List SortSpec} {orderBy : List (String × SortOrder)}
    (h : costCardSortColumns sort = .ok orderBy) : ∃ order, ("c.id", order) ∈ orderBy := by
  obtain ⟨keys, hkeys, h⟩ := bind_ok.mp h
  cases h
  split_ifs with hsort
  · obtain ⟨item, hitem, hid⟩ := List.any_eq_true.mp hsort
    obtain ⟨key, hkey, hstep⟩ := mapM_of_mem hkeys hitem
    obtain ⟨⟨field, column⟩, hcolumn, hpure⟩ := bind_ok.mp hstep
    cases hpure
    rw [of_decide_eq_true hid] at hcolumn
    rw [costCardColumn_id hcolumn] at hkey
    exact ⟨_, hkey⟩
  · exact ⟨.asc, by simp⟩

/-! ### Plans -/

/-- Does the client sort groups? -/
def sortsGroups (body : QueryJson) : Bool :=
  !namesCostCards body &&
    match normalizeQuery body none with
    | .ok query => query.mode = .aggregate && 0 < query.sort.length
    | .error _ => false

/-- **Unless the client sorts groups, no two results have the same keys.** -/
lemma plan_keys_nodup {body : QueryJson} {plan : QueryPlan}
    (hplan : queryPlan input body = .ok plan) (hsorts : sortsGroups body = false) :
    ((plan.results content).map (plan.orderKey mysql)).Nodup := by
  unfold queryPlan at hplan
  split_ifs at hplan with hcards
  · cases hauthorization : input.businessAuthorization with
    | none =>
      rw [hauthorization] at hplan
      cases hplan
    | some authorization =>
      rw [hauthorization] at hplan
      obtain ⟨statement, hstatement, hplan⟩ := bind_ok.mp hplan
      cases hplan
      obtain ⟨query, -, hstatement⟩ := bind_ok.mp hstatement
      obtain ⟨filter, -, hstatement⟩ := bind_ok.mp hstatement
      obtain ⟨projection, -, hstatement⟩ := bind_ok.mp hstatement
      obtain ⟨orderBy, horder, hstatement⟩ := bind_ok.mp hstatement
      cases hstatement
      obtain ⟨order, hid⟩ := costCardSortColumns_id horder
      exact card_keys_nodup hid
  · obtain ⟨query, hquery, hplan⟩ := bind_ok.mp hplan
    obtain ⟨statement, hstatement, hplan⟩ := bind_ok.mp hplan
    cases hplan
    unfold sortsGroups at hsorts
    rw [hquery] at hsorts
    cases hmode : query.mode with
    | detail =>
      obtain ⟨hdetail, keys, horder⟩ := queryStatement_detail hstatement hmode
      exact detail_keys_nodup hdetail horder
    | aggregate =>
      obtain ⟨haggregate, hreads, horder⟩ := queryStatement_aggregate hstatement hmode
      refine group_keys_nodup haggregate hreads (horder ?_)
      simpa [hcards, hmode] using hsorts

/-! ### What an account reads -/

/-- The rows that a query of the account can read, in some dataset. -/
def Readable (input : CompileInput) (content : Content mysql) (row : StoredRow) : Prop :=
  ∃ dataset, (baseScope input (getStructuredRegistry dataset)).admits content row = true

open Classical in
/-- The content without the rows that the account cannot read. -/
noncomputable def Content.within (input : CompileInput) (content : Content mysql) :
    Content mysql :=
  { content with
    rows := fun table => (content.rows table).filter fun row => Readable input content row
    rowKeys := fun table => (content.rowKeys table).sublist (List.filter_sublist.map _) }

lemma queryPlan_scope {body : QueryJson} (h : queryPlan input body = .ok (.rows statement)) :
    ∃ dataset, statement.scope = baseScope input (getStructuredRegistry dataset) := by
  unfold queryPlan at h
  split at h
  · split at h
    · cases h
    · obtain ⟨_, -, h⟩ := bind_ok.mp h
      cases h
  · obtain ⟨query, -, h⟩ := bind_ok.mp h
    obtain ⟨compiled, hcompiled, h⟩ := bind_ok.mp h
    cases h
    unfold queryStatement at hcompiled
    dsimp only at hcompiled
    obtain ⟨items, -, hcompiled⟩ := bind_ok.mp hcompiled
    obtain ⟨filter, -, hcompiled⟩ := bind_ok.mp hcompiled
    obtain ⟨orderBy, -, hcompiled⟩ := bind_ok.mp hcompiled
    obtain ⟨groupBy, -, hcompiled⟩ := bind_ok.mp hcompiled
    cases hcompiled
    exact ⟨query.dataset, rfl⟩

lemma selected_within (h : ∀ row, statement.scope.admits content row = true → Readable input content row) :
    statement.selected (content.within input) = statement.selected content := by
  classical
  change ((content.rows statement.rowTable).filter fun row => Readable input content row).filter
    (fun row => statement.scope.admits content row && _) = _
  rw [List.filter_filter, Statement.selected]
  refine List.filter_congr fun row _ => ?_
  by_cases hrow : statement.scope.admits content row = true
  · simp [h row hrow]
  · simp [hrow]

end StructuredQuery
end SmeDataCenter
