import SmeDataCenter.CostCardQuery
import SmeDataCenter.QueryWellFormed

/-!
# The parameters of a directory query stand in their clauses

The clauses of a directory query with their values in place, and one lemma a helper of the
compiler: its text and parameters spell the clause, and the text has no empty list, since an
`in` without values is written `0 = 1`.
-/

namespace SmeDataCenter
namespace StructuredQuery

open Sql Fallible

/-! ### What a directory query stands for -/

def costCardLikeClause (field : StructuredFieldRegistryEntry) (target start : String)
    (value : QueryJson) : Except QueryError (List (Token Param)) := do
  match ← costCardScalar field value with
  | some (.text text) =>
    return likeTokens field target (.text (start ++ literalLike text ++ "%"))
  | _ => invalid "Name search requires a string."

def costCardInClause (field : StructuredFieldRegistryEntry) (target : String)
    (value : QueryJson) : Except QueryError (List (Token Param)) :=
  match value with
  | .arr items =>
    if maxInValues < items.length then invalid "Directory in filter requires a bounded array."
    else do
      let values ← items.mapM (costCardScalar field)
      return inTokens (inParts field target (values.filterMap id) (values.any (·.isNone)))
  | _ => invalid "Directory in filter requires a bounded array."

def costCardComparisonClause (field : StructuredFieldRegistryEntry) (target op : String)
    (value : QueryJson) : Except QueryError (List (Token Param)) := do
  match ← costCardScalar field value with
  | none =>
    if op ≠ "eq" then invalid "Null values support equality only."
    else return [.text (target ++ " IS NULL")]
  | some parsed =>
    match comparisonOperators.lookup op with
    | none => invalid "Directory operator is invalid."
    | some operator => return compareTokens field target operator parsed

def costCardConditionClause (fieldName op : String) (value : QueryJson) :
    Except QueryError (List (Token Param)) := do
  let (field, target) ← costCardColumn fieldName
  if !field.operators.contains op then
    invalid "Operator is not supported by the directory field."
  else if op = "contains" then costCardLikeClause field target "%" value
  else if op = "starts_with" then costCardLikeClause field target "" value
  else if op = "in" then costCardInClause field target value
  else costCardComparisonClause field target op value

mutual

def costCardFilterClause : FilterNode → Except QueryError (List (Token Param))
  | .not node => do
    let inner ← costCardFilterClause node
    return .text "NOT (" :: inner ++ [.text ")"]
  | .and nodes => do
    let children ← costCardFilterClauses nodes
    return joinText " AND " (parenthesized children)
  | .or nodes => do
    let children ← costCardFilterClauses nodes
    return joinText " OR " (parenthesized children)
  | .field fieldName op value => costCardConditionClause fieldName op value

def costCardFilterClauses : List FilterNode → Except QueryError (List (List (Token Param)))
  | [] => .ok []
  | node :: nodes => do
    let child ← costCardFilterClause node
    let children ← costCardFilterClauses nodes
    return child :: children

end

def costCardWhereClause : Option FilterNode → Except QueryError (List (Token Param))
  | none => .ok [.text "1 = 1"]
  | some node => costCardFilterClause node

/-- The statement of a page of a directory query, each parameter in its clause. -/
def costCardStatement (input : CompileInput) (authorization : BusinessAuthorization)
    (body : QueryJson) (offset : ℕ) : Except QueryError (List (Token Param)) := do
  let query ← normalizeStructuredDirectoryQuery body costCardDirectoryRegistry
  let filter ← costCardWhereClause query.filter
  let projection ← query.select.mapM costCardItem
  let sort ← costCardSort query.sort
  return costCardTokens projection (.text input.orgId) authorization.filled filter sort
    (natParam query.page.limit) (natParam offset)

/-! ### Conditions -/

/-- A compiled condition is what its clause says, and has no empty list. -/
structure Aligned (fragment : Fragment Param) (clause : List (Token Param)) : Prop where
  spells : fragment.Spells clause
  lists : Lists fragment.sql true

section

variable {α : Type} {field : StructuredFieldRegistryEntry} {target : String}

@[simp] lemma prepared_placeholderTokens {a : α} : prepared (placeholderTokens field a) =
    placeholderTokens field () := by
  unfold placeholderTokens
  cases field.type <;> rfl

@[simp] lemma parameters_placeholderTokens {a : α} : parameters (placeholderTokens field a) =
    [a] := by
  unfold placeholderTokens
  cases field.type <;> rfl

lemma plain_placeholderTokens : Plain (placeholderTokens field ()) := by
  unfold placeholderTokens
  cases field.type <;> simp

lemma placeholderTokens_cons (field : StructuredFieldRegistryEntry) : ∃ token rest,
    placeholderTokens field () = token :: rest ∧ token ≠ .text ")" := by
  unfold placeholderTokens
  cases field.type <;> exact ⟨_, _, rfl, by simp⟩

end

lemma costCardColumn_dot {fieldName target : String} {field : StructuredFieldRegistryEntry}
    (h : costCardColumn fieldName = .ok (field, target)) : ∃ name, target = "c." ++ name := by
  unfold costCardColumn at h
  split at h
  · cases h
  · cases h
    exact ⟨_, rfl⟩

lemma not_open_target {target : String} (h : ∃ name, target = "c." ++ name)
    (before after : String) : before ++ target ++ after ≠ " IN (" := by
  obtain ⟨name, rfl⟩ := h
  exact not_open '.' (by simp [String.toList_append]) (by decide)

lemma not_open_expression {target : String} (h : ∃ name, target = "c." ++ name)
    (field : StructuredFieldRegistryEntry) (after : String) :
    targetExpression field target ++ after ≠ " IN (" := by
  unfold targetExpression
  split
  · simpa [String.append_assoc] using not_open_target h "CAST(" (" AS BINARY)" ++ after)
  · simpa using not_open_target h "" after

section

variable {field : StructuredFieldRegistryEntry} {target : String} {value : QueryJson}
  {fragment : Fragment Param}

lemma costCardLike_aligned (htarget : ∃ name, target = "c." ++ name) {start : String}
    (h : costCardLike field target start value = .ok fragment) :
    ∃ clause, costCardLikeClause field target start value = .ok clause ∧
      Aligned fragment clause := by
  obtain ⟨scalar, hscalar, h⟩ := bind_ok.mp h
  match scalar with
  | some (.text text) =>
    cases h
    refine ⟨_, bind_ok.mpr ⟨_, hscalar, rfl⟩, ⟨rfl, rfl⟩, Plain.lists ?_⟩
    simpa [likeTokens] using not_open_expression htarget field " LIKE CAST("
  | some (.number n) => cases h
  | none => cases h

lemma costCardComparison_aligned (htarget : ∃ name, target = "c." ++ name) {op : String}
    (h : costCardComparison field target op value = .ok fragment) :
    ∃ clause, costCardComparisonClause field target op value = .ok clause ∧
      Aligned fragment clause := by
  obtain ⟨scalar, hscalar, h⟩ := bind_ok.mp h
  cases scalar with
  | none =>
    by_cases hop : op ≠ "eq"
    · rw [if_pos hop] at h
      cases h
    · rw [if_neg hop] at h
      cases h
      refine ⟨_, bind_ok.mpr ⟨none, hscalar, if_neg hop⟩, ⟨rfl, rfl⟩, Plain.lists ?_⟩
      simpa using not_open_target htarget "" " IS NULL"
  | some parsed =>
    cases hoperator : comparisonOperators.lookup op with
    | none =>
      simp only [hoperator] at h
      cases h
    | some operator =>
      simp only [hoperator] at h
      cases h
      refine ⟨compareTokens field target operator parsed, bind_ok.mpr ⟨some parsed, hscalar, ?_⟩,
        ⟨?_, ?_⟩, Plain.lists ?_⟩
      · simp only [hoperator]
        rfl
      · simp [compareTokens]
      · simp [compareTokens]
      · have hexpression := not_open_expression htarget field (" " ++ operator ++ " ")
        simpa [compareTokens, plain_placeholderTokens, String.append_assoc] using hexpression

lemma inParts_spell (values : List Param) (null : Bool) :
    SpellsEach (inParts field target (values.map fun _ => ()) null) values
      (inParts field target values null) := by
  unfold inParts
  rw [List.isEmpty_map]
  have hnull : SpellsEach (α := Param) (if null then [[.text (target ++ " IS NULL")]] else []) []
      (if null then [[.text (target ++ " IS NULL")]] else []) := by
    cases null
    · exact .nil
    · exact ⟨rfl, rfl⟩
  have hplaceholders : SpellsEach ((values.map fun _ => ()).map (placeholderTokens field)) values
      (values.map (placeholderTokens field)) := by
    constructor
    · rw [List.map_map, List.map_map]
      exact List.map_congr_left fun _ _ => prepared_placeholderTokens.symm
    · rw [List.flatMap_map]
      simp
  split
  · rename_i hempty
    rw [List.isEmpty_iff] at hempty
    rw [hempty]
    exact hnull
  · obtain ⟨hjoin, hparams⟩ := Fragment.spells_mk.mp (hplaceholders.join ", ")
    have hlist : SpellsEach [Token.text (targetExpression field target) :: openList ::
        joinText ", " ((values.map fun _ => ()).map (placeholderTokens field)) ++ [.text ")"]]
        values [.text (targetExpression field target) :: openList ::
        joinText ", " (values.map (placeholderTokens field)) ++ [.text ")"]] := by
      constructor
      · simpa [openList] using hjoin
      · simpa [openList] using hparams
    simpa using hlist.append hnull

lemma inTokens_spells {texts : List PreparedText} {params : List Param}
    {tokens : List (List (Token Param))} (h : SpellsEach texts params tokens) :
    Fragment.Spells ⟨inTokens texts, params⟩ (inTokens tokens) := by
  have hempty : texts.isEmpty = tokens.isEmpty := by
    rw [h.texts, List.isEmpty_map]
  unfold inTokens
  rw [hempty]
  split
  · rename_i hnil
    rw [List.isEmpty_iff] at hnil
    exact ⟨rfl, by rw [h.params, hnil]; rfl⟩
  · obtain ⟨hjoin, hparams⟩ := Fragment.spells_mk.mp (h.join " OR ")
    exact ⟨by simpa using hjoin, by simpa using hparams⟩

lemma inParts_lists (htarget : ∃ name, target = "c." ++ name) (values : List Unit) (null : Bool) :
    ∀ part ∈ inParts field target values null, Lists part true := by
  intro part hpart
  unfold inParts at hpart
  rw [List.mem_append] at hpart
  rcases hpart with hvalues | hnull
  · cases values with
    | nil => cases hvalues
    | cons value values =>
      simp only [List.isEmpty_cons, Bool.false_eq_true, if_false, List.mem_singleton] at hvalues
      subst hvalues
      have hplain : Plain (joinText ", " ((value :: values).map (placeholderTokens field))) := by
        refine plain_join (by decide) ?_
        rw [List.forall_mem_map]
        exact fun _ _ => plain_placeholderTokens
      obtain ⟨token, text, htext, htoken⟩ := placeholderTokens_cons field
      obtain ⟨rest, hrest⟩ := joinText_cons ", " token text (values.map (placeholderTokens field))
      rw [List.map_cons, htext, hrest] at hplain
      have hopened := lists_opened htoken hplain
      have htarget' : Plain [.text (targetExpression field target)] := by
        simpa using not_open_expression htarget field ""
      have hlist := htarget'.lists.append hopened
      rw [List.map_cons, htext, hrest]
      exact hlist
  · cases null with
    | false => cases hnull
    | true =>
      simp only [if_true, List.mem_singleton] at hnull
      subst hnull
      refine Plain.lists ?_
      simpa using not_open_target htarget "" " IS NULL"

lemma inTokens_lists {parts : List PreparedText} (h : ∀ part ∈ parts, Lists part true) :
    Lists (inTokens parts) true := by
  unfold inTokens
  split
  · exact Plain.lists (by simp)
  · exact (lists_join_all (by decide) h).enclose [.text "("] [.text ")"] (by simp) (by simp)

lemma costCardIn_aligned (htarget : ∃ name, target = "c." ++ name)
    (h : costCardIn field target value = .ok fragment) :
    ∃ clause, costCardInClause field target value = .ok clause ∧ Aligned fragment clause := by
  unfold costCardIn at h
  split at h
  · rename_i items
    by_cases hbound : maxInValues < items.length
    · rw [if_pos hbound] at h
      cases h
    · rw [if_neg hbound] at h
      obtain ⟨values, hvalues, h⟩ := bind_ok.mp h
      cases h
      refine ⟨inTokens (inParts field target (values.filterMap id) (values.any (·.isNone))), ?_,
        inTokens_spells (inParts_spell _ _), ?_⟩
      · refine (if_neg hbound).trans ?_
        exact bind_ok.mpr ⟨values, hvalues, rfl⟩
      · exact inTokens_lists (inParts_lists htarget _ _)
  · cases h

end

lemma costCardCondition_aligned {fieldName op : String} {value : QueryJson}
    {fragment : Fragment Param} (h : costCardCondition fieldName op value = .ok fragment) :
    ∃ clause, costCardConditionClause fieldName op value = .ok clause ∧
      Aligned fragment clause := by
  obtain ⟨⟨field, target⟩, hcolumn, h⟩ := bind_ok.mp h
  have htarget := costCardColumn_dot hcolumn
  have hclause : ∀ {clause}, (if !field.operators.contains op then
        invalid "Operator is not supported by the directory field."
      else if op = "contains" then costCardLikeClause field target "%" value
      else if op = "starts_with" then costCardLikeClause field target "" value
      else if op = "in" then costCardInClause field target value
      else costCardComparisonClause field target op value) = .ok clause →
      costCardConditionClause fieldName op value = .ok clause :=
    fun hok => bind_ok.mpr ⟨(field, target), hcolumn, hok⟩
  simp only at h
  split_ifs at h hclause
  · cases h
  · obtain ⟨clause, hok, haligned⟩ := costCardLike_aligned htarget h
    exact ⟨clause, hclause hok, haligned⟩
  · obtain ⟨clause, hok, haligned⟩ := costCardLike_aligned htarget h
    exact ⟨clause, hclause hok, haligned⟩
  · obtain ⟨clause, hok, haligned⟩ := costCardIn_aligned htarget h
    exact ⟨clause, hclause hok, haligned⟩
  · obtain ⟨clause, hok, haligned⟩ := costCardComparison_aligned htarget h
    exact ⟨clause, hclause hok, haligned⟩

/-! ### Filters -/

lemma parenthesized_aligned {children : List (Fragment Param)}
    {clauses : List (List (Token Param))} (h : List.Forall₂ Aligned children clauses)
    {separator : String} (hseparator : separator ≠ " IN (") :
    Aligned ⟨joinText separator (parenthesized (children.map (·.sql))),
      children.flatMap (·.params)⟩ (joinText separator (parenthesized clauses)) := by
  have hparts : SpellsEach (parenthesized (children.map (·.sql))) (children.flatMap (·.params))
      (parenthesized clauses) := by
    induction h with
    | nil => exact .nil
    | @cons child clause children clauses head _ ih =>
      refine SpellsEach.append (SpellsEach.singleton (f := ⟨.text "(" :: child.sql ++
        [.text ")"], child.params⟩) ⟨?_, ?_⟩) ih
      · simpa using head.spells.sql
      · simpa using head.spells.params
  refine ⟨hparts.join separator, lists_join_all hseparator ?_⟩
  clear hparts
  induction h with
  | nil => exact fun _ => nofun
  | @cons child clause children clauses head _ ih =>
    have hchild := head.lists.enclose [.text "("] [.text ")"] (by simp) (by simp)
    exact List.forall_mem_cons.mpr ⟨hchild, ih⟩

mutual

lemma costCardFilter_aligned : ∀ {node : FilterNode} {fragment : Fragment Param},
    costCardFilter node = .ok fragment →
    ∃ clause, costCardFilterClause node = .ok clause ∧ Aligned fragment clause
  | .not node, fragment, h => by
    unfold costCardFilter at h
    obtain ⟨inner, hinner, h⟩ := bind_ok.mp h
    cases h
    obtain ⟨clause, hclause, haligned⟩ := costCardFilter_aligned hinner
    refine ⟨.text "NOT (" :: clause ++ [.text ")"], ?_, ⟨?_, ?_⟩, ?_⟩
    · unfold costCardFilterClause
      exact bind_ok.mpr ⟨clause, hclause, rfl⟩
    · simpa using haligned.spells.sql
    · simpa using haligned.spells.params
    · exact haligned.lists.enclose [.text "NOT ("] [.text ")"] (by simp) (by simp)
  | .and nodes, fragment, h => by
    unfold costCardFilter at h
    obtain ⟨children, hchildren, h⟩ := bind_ok.mp h
    cases h
    obtain ⟨clauses, hclauses, hall⟩ := costCardFilters_aligned hchildren
    refine ⟨joinText " AND " (parenthesized clauses), ?_, parenthesized_aligned hall (by decide)⟩
    unfold costCardFilterClause
    exact bind_ok.mpr ⟨clauses, hclauses, rfl⟩
  | .or nodes, fragment, h => by
    unfold costCardFilter at h
    obtain ⟨children, hchildren, h⟩ := bind_ok.mp h
    cases h
    obtain ⟨clauses, hclauses, hall⟩ := costCardFilters_aligned hchildren
    refine ⟨joinText " OR " (parenthesized clauses), ?_, parenthesized_aligned hall (by decide)⟩
    unfold costCardFilterClause
    exact bind_ok.mpr ⟨clauses, hclauses, rfl⟩
  | .field fieldName op value, fragment, h => by
    unfold costCardFilter at h
    obtain ⟨clause, hclause, haligned⟩ := costCardCondition_aligned h
    refine ⟨clause, ?_, haligned⟩
    unfold costCardFilterClause
    exact hclause

lemma costCardFilters_aligned : ∀ {nodes : List FilterNode} {children : List (Fragment Param)},
    costCardFilters nodes = .ok children →
    ∃ clauses, costCardFilterClauses nodes = .ok clauses ∧ List.Forall₂ Aligned children clauses
  | [], children, h => by
    unfold costCardFilters at h
    cases h
    refine ⟨[], ?_, .nil⟩
    unfold costCardFilterClauses
    rfl
  | node :: nodes, children, h => by
    unfold costCardFilters at h
    obtain ⟨child, hchild, h⟩ := bind_ok.mp h
    obtain ⟨rest, hrest, h⟩ := bind_ok.mp h
    cases h
    obtain ⟨clause, hclause, haligned⟩ := costCardFilter_aligned hchild
    obtain ⟨clauses, hclauses, hall⟩ := costCardFilters_aligned hrest
    refine ⟨clause :: clauses, ?_, .cons haligned hall⟩
    unfold costCardFilterClauses
    exact bind_ok.mpr ⟨clause, hclause, bind_ok.mpr ⟨clauses, hclauses, rfl⟩⟩

end

lemma costCardWhere_aligned {filter : Option FilterNode} {fragment : Fragment Param}
    (h : costCardWhere filter = .ok fragment) :
    ∃ clause, costCardWhereClause filter = .ok clause ∧ Aligned fragment clause := by
  cases filter with
  | none =>
    cases h
    exact ⟨_, rfl, ⟨rfl, rfl⟩, Plain.lists (by simp)⟩
  | some node => exact costCardFilter_aligned h

/-- **A directory query is aligned, without an empty list.** -/
lemma compileCostCardQuery_aligned {services : QueryServices} {input : CompileInput}
    {body : QueryJson} {compiled : StructuredCompiledQuery}
    (h : compileCostCardQuery services input body = .ok compiled) :
    ∃ authorization clause, input.businessAuthorization = some authorization ∧
      costCardStatement input authorization body compiled.offset = .ok clause ∧
      Fragment.Spells ⟨compiled.sql, compiled.params⟩ clause ∧ NoEmptyList compiled.sql := by
  unfold compileCostCardQuery at h
  cases hauthorization : input.businessAuthorization with
  | none =>
    rw [hauthorization] at h
    cases h
  | some authorization =>
    rw [hauthorization] at h
    obtain ⟨query, hquery, h⟩ := bind_ok.mp h
    obtain ⟨filter, hfilter, h⟩ := bind_ok.mp h
    obtain ⟨offset, -, h⟩ := bind_ok.mp h
    obtain ⟨projection, hprojection, h⟩ := bind_ok.mp h
    obtain ⟨sort, hsort, h⟩ := bind_ok.mp h
    cases h
    obtain ⟨clause, hclause, haligned⟩ := costCardWhere_aligned hfilter
    obtain ⟨hguard, hguardParams⟩ := Fragment.spells_mk.mp authorization.spells
    obtain ⟨hwhere, hwhereParams⟩ := haligned.spells
    refine ⟨authorization, _, rfl, bind_ok.mpr ⟨query, hquery, bind_ok.mpr ⟨clause, hclause,
      bind_ok.mpr ⟨projection, hprojection, bind_ok.mpr ⟨sort, hsort, rfl⟩⟩⟩⟩, ⟨?_, ?_⟩, ?_⟩
    · simp [costCardTokens, hguard, hwhere]
    · simp [costCardTokens, ← hguardParams, ← hwhereParams]
    · have hselect : "SELECT " ++ ", ".intercalate projection ++
          " FROM cost_cards c WHERE CAST(c.org_id AS BINARY) = CAST(" ≠ " IN (" :=
        not_open 'W' (by simp [String.toList_append]) (by decide)
      have horder : ") ORDER BY " ++ ", ".intercalate sort ++ " LIMIT " ≠ " IN (" :=
        not_open 'L' (by simp [String.toList_append]) (by decide)
      have hopens : Plain authorization.sql := authorization.opensNoList
      have hlists := haligned.lists.enclose
        ([.text ("SELECT " ++ ", ".intercalate projection ++
            " FROM cost_cards c WHERE CAST(c.org_id AS BINARY) = CAST("), .param (),
            .text " AS BINARY) AND c.archived_at IS NULL AND ("] ++ authorization.sql ++
          [.text ") AND ("])
        [.text (") ORDER BY " ++ ", ".intercalate sort ++ " LIMIT "), .param (),
          .text " OFFSET ", .param ()]
        (by simpa [hopens] using hselect) (by simpa using horder)
      have hfilled := hlists.filled_iff.mpr rfl
      simpa [costCardTokens] using hfilled

end StructuredQuery
end SmeDataCenter
