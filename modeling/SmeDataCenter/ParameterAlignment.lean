import SmeDataCenter.CostCardAlignment

/-!
# Positional parameters of structured queries

The two compilers together. What a query stands for is its statement with every parameter in
its own clause; the text and the list that are compiled give that statement back. The text is
well formed as long as no `in` condition of a row query has an empty array.
-/

namespace SmeDataCenter
namespace StructuredQuery

open Sql Fallible

/-- What a query stands for at an offset, with every parameter in its clause. -/
def statementOf (input : CompileInput) (body : QueryJson) (offset : ℕ) :
    Except QueryError (List (Token Param)) :=
  if namesCostCards body then
    match input.businessAuthorization with
    | none => refuse .datasetForbidden "Current cost-card authorization is required." []
    | some authorization => costCardStatement input authorization body offset
  else do
    let query ← normalizeQuery body none
    let registry := getStructuredRegistry query.dataset
    let statement ← queryStatement input query registry (registry.rowTable.getD "") offset
    return statement.tokens

/-- The compiled text is well formed, and its placeholders take the parameters of their
clauses one by one. -/
structure ParametersAligned (input : CompileInput) (body : QueryJson)
    (compiled : StructuredCompiledQuery) : Prop where
  wellFormed : NoEmptyList compiled.sql
  count : compiled.sql.countP (· = .param ()) = compiled.params.length
  filled : ∃ tokens, statementOf input body compiled.offset = .ok tokens ∧
    fill compiled.sql compiled.params = some tokens

/-- Has the filter of a row query an `in` condition with an empty array? -/
def hasEmptyIn (body : QueryJson) : Bool :=
  !namesCostCards body &&
    match normalizeQuery body none with
    | .ok query => (query.filter.map FilterNode.hasEmptyIn).getD false
    | .error _ => false

variable {compiled : StructuredCompiledQuery}

variable {services : QueryServices} {input : CompileInput}

lemma compileNormalizedQuery_lists {query : NormalizedQuery} {registry : StructuredDatasetRegistry}
    (h : compileNormalizedQuery services input query registry = .ok compiled) :
    NoEmptyList compiled.sql ↔ (query.filter.map FilterNode.hasEmptyIn).getD false = false := by
  unfold compileNormalizedQuery at h
  cases htable : registry.rowTable with
  | none =>
    rw [htable] at h
    cases h
  | some rowTable =>
    rw [htable] at h
    obtain ⟨-, -, h⟩ := bind_ok.mp h
    obtain ⟨-, -, h⟩ := bind_ok.mp h
    obtain ⟨-, -, h⟩ := bind_ok.mp h
    obtain ⟨-, -, h⟩ := bind_ok.mp h
    obtain ⟨offset, -, h⟩ := bind_ok.mp h
    obtain ⟨dynamic, -, h⟩ := bind_ok.mp h
    obtain ⟨projection, -, h⟩ := bind_ok.mp h
    obtain ⟨filter, hfilter, h⟩ := bind_ok.mp h
    obtain ⟨order, -, h⟩ := bind_ok.mp h
    obtain ⟨groupBy, -, h⟩ := bind_ok.mp h
    cases h
    have hguard : Plain (baseFromAndWhere input registry).1.rowGuard.tokens := by
      unfold baseFromAndWhere
      cases input.businessAuthorization with
      | none => simp [RowGuard.tokens]
      | some authorization =>
        have hopens : Plain authorization.sql := authorization.opensNoList
        simp [RowGuard.tokens, hopens]
    rw [lists_statement _ hguard]
    cases hnode : query.filter with
    | none =>
      rw [hnode] at hfilter
      cases hfilter
      simp
    | some node =>
      rw [hnode] at hfilter
      obtain ⟨fragment, hfragment, hfilter⟩ := bind_ok.mp hfilter
      cases hfilter
      simp [compileFilter_listsFilled hfragment]

variable {body : QueryJson}

lemma parametersAligned_iff {tokens : List (Token Param)}
    (hstatement : statementOf input body compiled.offset = .ok tokens)
    (hspells : Fragment.Spells ⟨compiled.sql, compiled.params⟩ tokens) :
    ParametersAligned input body compiled ↔ NoEmptyList compiled.sql := by
  constructor
  · exact fun h => h.wellFormed
  · exact fun h => ⟨h, hspells.count, tokens, hstatement, hspells.fill⟩

lemma costCard_aligned (hcost : namesCostCards body = true)
    (h : compileCostCardQuery services input body = .ok compiled) :
    ParametersAligned input body compiled := by
  obtain ⟨authorization, clause, hauthorization, hclause, hspells, hlists⟩ :=
    compileCostCardQuery_aligned h
  refine (parametersAligned_iff ?_ hspells).mpr hlists
  unfold statementOf
  rw [if_pos hcost, hauthorization]
  exact hclause

lemma rowQuery_aligned_iff {query : NormalizedQuery} (hcost : namesCostCards body ≠ true)
    (hquery : normalizeQuery body none = .ok query)
    (h : compileNormalizedQuery services input query (getStructuredRegistry query.dataset) =
      .ok compiled) :
    ParametersAligned input body compiled ↔ hasEmptyIn body = false := by
  obtain ⟨rowTable, statement, htable, hstatement, hspells⟩ := compileNormalizedQuery_spells h
  have hof : statementOf input body compiled.offset = .ok statement.tokens := by
    unfold statementOf
    rw [if_neg hcost]
    refine bind_ok.mpr ⟨query, hquery, bind_ok.mpr ⟨statement, ?_, rfl⟩⟩
    rw [htable]
    exact hstatement
  rw [parametersAligned_iff hof hspells, compileNormalizedQuery_lists h]
  unfold hasEmptyIn
  rw [hquery]
  simp [hcost]

lemma compileStructuredQuery_of_public
    (h : compilePublicStructuredQuery services input body = .ok compiled) :
    compileStructuredQuery services input body = .ok compiled := by
  unfold compilePublicStructuredQuery at h
  unfold compileStructuredQuery
  split_ifs at h ⊢
  · exact h
  · obtain ⟨query, hquery, h⟩ := bind_ok.mp h
    refine bind_ok.mpr ⟨query, hquery, ?_⟩
    split_ifs at h with hledger
    · cases h
    · cases hdataset : query.dataset with
      | costCards =>
        rw [hdataset] at h
        cases h
      | deliveryLedger => exact absurd hdataset hledger
      | _ =>
        rw [hdataset] at h
        exact h

def plainServices : QueryServices where
  parsesDate _ := false
  hashQueryShape _ := ""
  hashDirectoryShape _ := ""
  parseCursor _ := none
  printCursor _ := ""
  signCursorPayload _ _ := ""

def legacyInput : CompileInput :=
  { orgId := "o", employeeId := none, clearance := 3, cursorSecret := "s", now := 0
    businessAuthorization := none }

/-- Count the suppliers whose name is one of a list. -/
def countSuppliers (names : List QueryJson) : QueryJson :=
  .obj [("dataset", .str "supplier_catalog"),
    ("aggregates", .arr [.obj [("op", .str "count")]]),
    ("filter", .obj [("field", .str "supplier_name"), ("op", .str "in"), ("value", .arr names)])]

end StructuredQuery
end SmeDataCenter
